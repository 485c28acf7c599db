import CodeShelf.Text.Ranges

/-!
# Canonical decompositions and combining classes

The canonical decompositions of the Unicode character database, each taken apart to
the end, and the classes by which marks on one letter are put in order.  The syllables
of Hangul are not listed: they are computed.
-/

namespace CodeShelf.Text.Normal

/-- The ranges of the combining classes other than zero: first, last and class. -/
def classRanges : List (Nat × Nat × Nat) := [
  (0x300, 0x314, 230), (0x315, 0x315, 232), (0x316, 0x319, 220), (0x31A, 0x31A, 232),
  (0x31B, 0x31B, 216), (0x31C, 0x320, 220), (0x321, 0x322, 202), (0x323, 0x326, 220),
  (0x327, 0x328, 202), (0x329, 0x333, 220), (0x334, 0x338, 1), (0x339, 0x33C, 220),
  (0x33D, 0x33F, 230), (0x342, 0x342, 230), (0x345, 0x345, 240), (0x346, 0x346, 230),
  (0x347, 0x349, 220), (0x34A, 0x34C, 230), (0x34D, 0x34E, 220), (0x350, 0x352, 230),
  (0x353, 0x356, 220), (0x357, 0x357, 230), (0x358, 0x358, 232), (0x359, 0x35A, 220),
  (0x35B, 0x35B, 230), (0x35C, 0x35C, 233), (0x35D, 0x35E, 234), (0x35F, 0x35F, 233),
  (0x360, 0x361, 234), (0x362, 0x362, 233), (0x363, 0x36F, 230), (0x483, 0x487, 230),
  (0x591, 0x591, 220), (0x592, 0x595, 230), (0x596, 0x596, 220), (0x597, 0x599, 230),
  (0x59A, 0x59A, 222), (0x59B, 0x59B, 220), (0x59C, 0x5A1, 230), (0x5A2, 0x5A7, 220),
  (0x5A8, 0x5A9, 230), (0x5AA, 0x5AA, 220), (0x5AB, 0x5AC, 230), (0x5AD, 0x5AD, 222),
  (0x5AE, 0x5AE, 228), (0x5AF, 0x5AF, 230), (0x5B0, 0x5B0, 10), (0x5B1, 0x5B1, 11),
  (0x5B2, 0x5B2, 12), (0x5B3, 0x5B3, 13), (0x5B4, 0x5B4, 14), (0x5B5, 0x5B5, 15),
  (0x5B6, 0x5B6, 16), (0x5B7, 0x5B7, 17), (0x5B8, 0x5B8, 18), (0x5B9, 0x5BA, 19),
  (0x5BB, 0x5BB, 20), (0x5BC, 0x5BC, 21), (0x5BD, 0x5BD, 22), (0x5BF, 0x5BF, 23),
  (0x5C1, 0x5C1, 24), (0x5C2, 0x5C2, 25), (0x5C4, 0x5C4, 230), (0x5C5, 0x5C5, 220),
  (0x5C7, 0x5C7, 18), (0x610, 0x617, 230), (0x618, 0x618, 30), (0x619, 0x619, 31),
  (0x61A, 0x61A, 32), (0x64B, 0x64B, 27), (0x64C, 0x64C, 28), (0x64D, 0x64D, 29),
  (0x64E, 0x64E, 30), (0x64F, 0x64F, 31), (0x650, 0x650, 32), (0x651, 0x651, 33),
  (0x652, 0x652, 34), (0x653, 0x654, 230), (0x655, 0x656, 220), (0x657, 0x65B, 230),
  (0x65C, 0x65C, 220), (0x65D, 0x65E, 230), (0x65F, 0x65F, 220), (0x670, 0x670, 35),
  (0x6D6, 0x6DC, 230), (0x6DF, 0x6E2, 230), (0x6E3, 0x6E3, 220), (0x6E4, 0x6E4, 230),
  (0x6E7, 0x6E8, 230), (0x6EA, 0x6EA, 220), (0x6EB, 0x6EC, 230), (0x6ED, 0x6ED, 220),
  (0x711, 0x711, 36), (0x730, 0x730, 230), (0x731, 0x731, 220), (0x732, 0x733, 230),
  (0x734, 0x734, 220), (0x735, 0x736, 230), (0x737, 0x739, 220), (0x73A, 0x73A, 230),
  (0x73B, 0x73C, 220), (0x73D, 0x73D, 230), (0x73E, 0x73E, 220), (0x73F, 0x741, 230),
  (0x742, 0x742, 220), (0x743, 0x743, 230), (0x744, 0x744, 220), (0x745, 0x745, 230),
  (0x746, 0x746, 220), (0x747, 0x747, 230), (0x748, 0x748, 220), (0x749, 0x74A, 230),
  (0x7EB, 0x7F1, 230), (0x7F2, 0x7F2, 220), (0x7F3, 0x7F3, 230), (0x7FD, 0x7FD, 220),
  (0x816, 0x819, 230), (0x81B, 0x823, 230), (0x825, 0x827, 230), (0x829, 0x82D, 230),
  (0x859, 0x85B, 220), (0x897, 0x898, 230), (0x899, 0x89B, 220), (0x89C, 0x89F, 230),
  (0x8CA, 0x8CE, 230), (0x8CF, 0x8D3, 220), (0x8D4, 0x8E1, 230), (0x8E3, 0x8E3, 220),
  (0x8E4, 0x8E5, 230), (0x8E6, 0x8E6, 220), (0x8E7, 0x8E8, 230), (0x8E9, 0x8E9, 220),
  (0x8EA, 0x8EC, 230), (0x8ED, 0x8EF, 220), (0x8F0, 0x8F0, 27), (0x8F1, 0x8F1, 28),
  (0x8F2, 0x8F2, 29), (0x8F3, 0x8F5, 230), (0x8F6, 0x8F6, 220), (0x8F7, 0x8F8, 230),
  (0x8F9, 0x8FA, 220), (0x8FB, 0x8FF, 230), (0x93C, 0x93C, 7), (0x94D, 0x94D, 9),
  (0x951, 0x951, 230), (0x952, 0x952, 220), (0x953, 0x954, 230), (0x9BC, 0x9BC, 7),
  (0x9CD, 0x9CD, 9), (0x9FE, 0x9FE, 230), (0xA3C, 0xA3C, 7), (0xA4D, 0xA4D, 9),
  (0xABC, 0xABC, 7), (0xACD, 0xACD, 9), (0xB3C, 0xB3C, 7), (0xB4D, 0xB4D, 9),
  (0xBCD, 0xBCD, 9), (0xC3C, 0xC3C, 7), (0xC4D, 0xC4D, 9), (0xC55, 0xC55, 84),
  (0xC56, 0xC56, 91), (0xCBC, 0xCBC, 7), (0xCCD, 0xCCD, 9), (0xD3B, 0xD3C, 9),
  (0xD4D, 0xD4D, 9), (0xDCA, 0xDCA, 9), (0xE38, 0xE39, 103), (0xE3A, 0xE3A, 9),
  (0xE48, 0xE4B, 107), (0xEB8, 0xEB9, 118), (0xEBA, 0xEBA, 9), (0xEC8, 0xECB, 122),
  (0xF18, 0xF19, 220), (0xF35, 0xF35, 220), (0xF37, 0xF37, 220), (0xF39, 0xF39, 216),
  (0xF71, 0xF71, 129), (0xF72, 0xF72, 130), (0xF74, 0xF74, 132), (0xF7A, 0xF7D, 130),
  (0xF80, 0xF80, 130), (0xF82, 0xF83, 230), (0xF84, 0xF84, 9), (0xF86, 0xF87, 230),
  (0xFC6, 0xFC6, 220), (0x1037, 0x1037, 7), (0x1039, 0x103A, 9), (0x108D, 0x108D, 220),
  (0x135D, 0x135F, 230), (0x1714, 0x1715, 9), (0x1734, 0x1734, 9), (0x17D2, 0x17D2, 9),
  (0x17DD, 0x17DD, 230), (0x18A9, 0x18A9, 228), (0x1939, 0x1939, 222),
  (0x193A, 0x193A, 230), (0x193B, 0x193B, 220), (0x1A17, 0x1A17, 230),
  (0x1A18, 0x1A18, 220), (0x1A60, 0x1A60, 9), (0x1A75, 0x1A7C, 230), (0x1A7F, 0x1A7F, 220),
  (0x1AB0, 0x1AB4, 230), (0x1AB5, 0x1ABA, 220), (0x1ABB, 0x1ABC, 230),
  (0x1ABD, 0x1ABD, 220), (0x1ABF, 0x1AC0, 220), (0x1AC1, 0x1AC2, 230),
  (0x1AC3, 0x1AC4, 220), (0x1AC5, 0x1AC9, 230), (0x1ACA, 0x1ACA, 220),
  (0x1ACB, 0x1ADC, 230), (0x1ADD, 0x1ADD, 220), (0x1AE0, 0x1AE5, 230),
  (0x1AE6, 0x1AE6, 220), (0x1AE7, 0x1AEA, 230), (0x1AEB, 0x1AEB, 234), (0x1B34, 0x1B34, 7),
  (0x1B44, 0x1B44, 9), (0x1B6B, 0x1B6B, 230), (0x1B6C, 0x1B6C, 220), (0x1B6D, 0x1B73, 230),
  (0x1BAA, 0x1BAB, 9), (0x1BE6, 0x1BE6, 7), (0x1BF2, 0x1BF3, 9), (0x1C37, 0x1C37, 7),
  (0x1CD0, 0x1CD2, 230), (0x1CD4, 0x1CD4, 1), (0x1CD5, 0x1CD9, 220), (0x1CDA, 0x1CDB, 230),
  (0x1CDC, 0x1CDF, 220), (0x1CE0, 0x1CE0, 230), (0x1CE2, 0x1CE8, 1), (0x1CED, 0x1CED, 220),
  (0x1CF4, 0x1CF4, 230), (0x1CF8, 0x1CF9, 230), (0x1DC0, 0x1DC1, 230),
  (0x1DC2, 0x1DC2, 220), (0x1DC3, 0x1DC9, 230), (0x1DCA, 0x1DCA, 220),
  (0x1DCB, 0x1DCC, 230), (0x1DCD, 0x1DCD, 234), (0x1DCE, 0x1DCE, 214),
  (0x1DCF, 0x1DCF, 220), (0x1DD0, 0x1DD0, 202), (0x1DD1, 0x1DF5, 230),
  (0x1DF6, 0x1DF6, 232), (0x1DF7, 0x1DF8, 228), (0x1DF9, 0x1DF9, 220),
  (0x1DFA, 0x1DFA, 218), (0x1DFB, 0x1DFB, 230), (0x1DFC, 0x1DFC, 233),
  (0x1DFD, 0x1DFD, 220), (0x1DFE, 0x1DFE, 230), (0x1DFF, 0x1DFF, 220),
  (0x20D0, 0x20D1, 230), (0x20D2, 0x20D3, 1), (0x20D4, 0x20D7, 230), (0x20D8, 0x20DA, 1),
  (0x20DB, 0x20DC, 230), (0x20E1, 0x20E1, 230), (0x20E5, 0x20E6, 1), (0x20E7, 0x20E7, 230),
  (0x20E8, 0x20E8, 220), (0x20E9, 0x20E9, 230), (0x20EA, 0x20EB, 1), (0x20EC, 0x20EF, 220),
  (0x20F0, 0x20F0, 230), (0x2CEF, 0x2CF1, 230), (0x2D7F, 0x2D7F, 9), (0x2DE0, 0x2DFF, 230),
  (0x302A, 0x302A, 218), (0x302B, 0x302B, 228), (0x302C, 0x302C, 232),
  (0x302D, 0x302D, 222), (0x302E, 0x302F, 224), (0x3099, 0x309A, 8), (0xA66F, 0xA66F, 230),
  (0xA674, 0xA67D, 230), (0xA69E, 0xA69F, 230), (0xA6F0, 0xA6F1, 230), (0xA806, 0xA806, 9),
  (0xA82C, 0xA82C, 9), (0xA8C4, 0xA8C4, 9), (0xA8E0, 0xA8F1, 230), (0xA92B, 0xA92D, 220),
  (0xA953, 0xA953, 9), (0xA9B3, 0xA9B3, 7), (0xA9C0, 0xA9C0, 9), (0xAAB0, 0xAAB0, 230),
  (0xAAB2, 0xAAB3, 230), (0xAAB4, 0xAAB4, 220), (0xAAB7, 0xAAB8, 230),
  (0xAABE, 0xAABF, 230), (0xAAC1, 0xAAC1, 230), (0xAAF6, 0xAAF6, 9), (0xABED, 0xABED, 9),
  (0xFB1E, 0xFB1E, 26), (0xFE20, 0xFE26, 230), (0xFE27, 0xFE2D, 220), (0xFE2E, 0xFE2F, 230),
  (0x101FD, 0x101FD, 220), (0x102E0, 0x102E0, 220), (0x10376, 0x1037A, 230),
  (0x10A0D, 0x10A0D, 220), (0x10A0F, 0x10A0F, 230), (0x10A38, 0x10A38, 230),
  (0x10A39, 0x10A39, 1), (0x10A3A, 0x10A3A, 220), (0x10A3F, 0x10A3F, 9),
  (0x10AE5, 0x10AE5, 230), (0x10AE6, 0x10AE6, 220), (0x10D24, 0x10D27, 230),
  (0x10D69, 0x10D6D, 230), (0x10EAB, 0x10EAC, 230), (0x10EFA, 0x10EFB, 220),
  (0x10EFD, 0x10EFF, 220), (0x10F46, 0x10F47, 220), (0x10F48, 0x10F4A, 230),
  (0x10F4B, 0x10F4B, 220), (0x10F4C, 0x10F4C, 230), (0x10F4D, 0x10F50, 220),
  (0x10F82, 0x10F82, 230), (0x10F83, 0x10F83, 220), (0x10F84, 0x10F84, 230),
  (0x10F85, 0x10F85, 220), (0x11046, 0x11046, 9), (0x11070, 0x11070, 9),
  (0x1107F, 0x1107F, 9), (0x110B9, 0x110B9, 9), (0x110BA, 0x110BA, 7),
  (0x11100, 0x11102, 230), (0x11133, 0x11134, 9), (0x11173, 0x11173, 7),
  (0x111C0, 0x111C0, 9), (0x111CA, 0x111CA, 7), (0x11235, 0x11235, 9),
  (0x11236, 0x11236, 7), (0x112E9, 0x112E9, 7), (0x112EA, 0x112EA, 9),
  (0x1133B, 0x1133C, 7), (0x1134D, 0x1134D, 9), (0x11366, 0x1136C, 230),
  (0x11370, 0x11374, 230), (0x113CE, 0x113D0, 9), (0x11442, 0x11442, 9),
  (0x11446, 0x11446, 7), (0x1145E, 0x1145E, 230), (0x114C2, 0x114C2, 9),
  (0x114C3, 0x114C3, 7), (0x115BF, 0x115BF, 9), (0x115C0, 0x115C0, 7),
  (0x1163F, 0x1163F, 9), (0x116B6, 0x116B6, 9), (0x116B7, 0x116B7, 7),
  (0x1172B, 0x1172B, 9), (0x11839, 0x11839, 9), (0x1183A, 0x1183A, 7),
  (0x1193D, 0x1193E, 9), (0x11943, 0x11943, 7), (0x119E0, 0x119E0, 9),
  (0x11A34, 0x11A34, 9), (0x11A47, 0x11A47, 9), (0x11A99, 0x11A99, 9),
  (0x11C3F, 0x11C3F, 9), (0x11D42, 0x11D42, 7), (0x11D44, 0x11D45, 9),
  (0x11D97, 0x11D97, 9), (0x11F41, 0x11F42, 9), (0x1612F, 0x1612F, 9),
  (0x16AF0, 0x16AF4, 1), (0x16B30, 0x16B36, 230), (0x16FF0, 0x16FF1, 6),
  (0x1BC9E, 0x1BC9E, 1), (0x1D165, 0x1D166, 216), (0x1D167, 0x1D169, 1),
  (0x1D16D, 0x1D16D, 226), (0x1D16E, 0x1D172, 216), (0x1D17B, 0x1D182, 220),
  (0x1D185, 0x1D189, 230), (0x1D18A, 0x1D18B, 220), (0x1D1AA, 0x1D1AD, 230),
  (0x1D242, 0x1D244, 230), (0x1E000, 0x1E006, 230), (0x1E008, 0x1E018, 230),
  (0x1E01B, 0x1E021, 230), (0x1E023, 0x1E024, 230), (0x1E026, 0x1E02A, 230),
  (0x1E08F, 0x1E08F, 230), (0x1E130, 0x1E136, 230), (0x1E2AE, 0x1E2AE, 230),
  (0x1E2EC, 0x1E2EF, 230), (0x1E4EC, 0x1E4ED, 232), (0x1E4EE, 0x1E4EE, 220),
  (0x1E4EF, 0x1E4EF, 230), (0x1E5EE, 0x1E5EE, 230), (0x1E5EF, 0x1E5EF, 220),
  (0x1E6E3, 0x1E6E3, 230), (0x1E6E6, 0x1E6E6, 230), (0x1E6EE, 0x1E6EF, 230),
  (0x1E6F5, 0x1E6F5, 230), (0x1E8D0, 0x1E8D6, 220), (0x1E944, 0x1E949, 230),
  (0x1E94A, 0x1E94A, 7)
]

def composites : List Row := [
  ⟨0xC0, [
    [0x41, 0x300], [0x41, 0x301], [0x41, 0x302], [0x41, 0x303], [0x41, 0x308], [0x41, 0x30A]]⟩,
  ⟨0xC7, [
    [0x43, 0x327], [0x45, 0x300], [0x45, 0x301], [0x45, 0x302], [0x45, 0x308],
    [0x49, 0x300], [0x49, 0x301], [0x49, 0x302], [0x49, 0x308]]⟩,
  ⟨0xD1, [
    [0x4E, 0x303], [0x4F, 0x300], [0x4F, 0x301], [0x4F, 0x302], [0x4F, 0x303], [0x4F, 0x308]]⟩,
  ⟨0xD9, [[0x55, 0x300], [0x55, 0x301], [0x55, 0x302], [0x55, 0x308], [0x59, 0x301]]⟩,
  ⟨0xE0, [
    [0x61, 0x300], [0x61, 0x301], [0x61, 0x302], [0x61, 0x303], [0x61, 0x308], [0x61, 0x30A]]⟩,
  ⟨0xE7, [
    [0x63, 0x327], [0x65, 0x300], [0x65, 0x301], [0x65, 0x302], [0x65, 0x308],
    [0x69, 0x300], [0x69, 0x301], [0x69, 0x302], [0x69, 0x308]]⟩,
  ⟨0xF1, [
    [0x6E, 0x303], [0x6F, 0x300], [0x6F, 0x301], [0x6F, 0x302], [0x6F, 0x303], [0x6F, 0x308]]⟩,
  ⟨0xF9, [[0x75, 0x300], [0x75, 0x301], [0x75, 0x302], [0x75, 0x308], [0x79, 0x301]]⟩,
  ⟨0xFF, [
    [0x79, 0x308], [0x41, 0x304], [0x61, 0x304], [0x41, 0x306], [0x61, 0x306],
    [0x41, 0x328], [0x61, 0x328], [0x43, 0x301], [0x63, 0x301], [0x43, 0x302],
    [0x63, 0x302], [0x43, 0x307], [0x63, 0x307], [0x43, 0x30C], [0x63, 0x30C],
    [0x44, 0x30C], [0x64, 0x30C]]⟩,
  ⟨0x112, [
    [0x45, 0x304], [0x65, 0x304], [0x45, 0x306], [0x65, 0x306], [0x45, 0x307],
    [0x65, 0x307], [0x45, 0x328], [0x65, 0x328], [0x45, 0x30C], [0x65, 0x30C],
    [0x47, 0x302], [0x67, 0x302], [0x47, 0x306], [0x67, 0x306], [0x47, 0x307],
    [0x67, 0x307], [0x47, 0x327], [0x67, 0x327], [0x48, 0x302], [0x68, 0x302]]⟩,
  ⟨0x128, [
    [0x49, 0x303], [0x69, 0x303], [0x49, 0x304], [0x69, 0x304], [0x49, 0x306],
    [0x69, 0x306], [0x49, 0x328], [0x69, 0x328], [0x49, 0x307]]⟩,
  ⟨0x134, [[0x4A, 0x302], [0x6A, 0x302], [0x4B, 0x327], [0x6B, 0x327]]⟩,
  ⟨0x139, [
    [0x4C, 0x301], [0x6C, 0x301], [0x4C, 0x327], [0x6C, 0x327], [0x4C, 0x30C], [0x6C, 0x30C]]⟩,
  ⟨0x143, [
    [0x4E, 0x301], [0x6E, 0x301], [0x4E, 0x327], [0x6E, 0x327], [0x4E, 0x30C], [0x6E, 0x30C]]⟩,
  ⟨0x14C, [
    [0x4F, 0x304], [0x6F, 0x304], [0x4F, 0x306], [0x6F, 0x306], [0x4F, 0x30B], [0x6F, 0x30B]]⟩,
  ⟨0x154, [
    [0x52, 0x301], [0x72, 0x301], [0x52, 0x327], [0x72, 0x327], [0x52, 0x30C],
    [0x72, 0x30C], [0x53, 0x301], [0x73, 0x301], [0x53, 0x302], [0x73, 0x302],
    [0x53, 0x327], [0x73, 0x327], [0x53, 0x30C], [0x73, 0x30C], [0x54, 0x327],
    [0x74, 0x327], [0x54, 0x30C], [0x74, 0x30C]]⟩,
  ⟨0x168, [
    [0x55, 0x303], [0x75, 0x303], [0x55, 0x304], [0x75, 0x304], [0x55, 0x306],
    [0x75, 0x306], [0x55, 0x30A], [0x75, 0x30A], [0x55, 0x30B], [0x75, 0x30B],
    [0x55, 0x328], [0x75, 0x328], [0x57, 0x302], [0x77, 0x302], [0x59, 0x302],
    [0x79, 0x302], [0x59, 0x308], [0x5A, 0x301], [0x7A, 0x301], [0x5A, 0x307],
    [0x7A, 0x307], [0x5A, 0x30C], [0x7A, 0x30C]]⟩,
  ⟨0x1A0, [[0x4F, 0x31B], [0x6F, 0x31B]]⟩, ⟨0x1AF, [[0x55, 0x31B], [0x75, 0x31B]]⟩,
  ⟨0x1CD, [
    [0x41, 0x30C], [0x61, 0x30C], [0x49, 0x30C], [0x69, 0x30C], [0x4F, 0x30C],
    [0x6F, 0x30C], [0x55, 0x30C], [0x75, 0x30C], [0x55, 0x308, 0x304], [0x75, 0x308, 0x304],
    [0x55, 0x308, 0x301], [0x75, 0x308, 0x301], [0x55, 0x308, 0x30C], [0x75, 0x308, 0x30C],
    [0x55, 0x308, 0x300], [0x75, 0x308, 0x300]]⟩,
  ⟨0x1DE, [
    [0x41, 0x308, 0x304], [0x61, 0x308, 0x304], [0x41, 0x307, 0x304], [0x61, 0x307, 0x304],
    [0xC6, 0x304], [0xE6, 0x304]]⟩,
  ⟨0x1E6, [
    [0x47, 0x30C], [0x67, 0x30C], [0x4B, 0x30C], [0x6B, 0x30C], [0x4F, 0x328],
    [0x6F, 0x328], [0x4F, 0x328, 0x304], [0x6F, 0x328, 0x304], [0x1B7, 0x30C],
    [0x292, 0x30C], [0x6A, 0x30C]]⟩,
  ⟨0x1F4, [[0x47, 0x301], [0x67, 0x301]]⟩,
  ⟨0x1F8, [
    [0x4E, 0x300], [0x6E, 0x300], [0x41, 0x30A, 0x301], [0x61, 0x30A, 0x301], [0xC6, 0x301],
    [0xE6, 0x301], [0xD8, 0x301], [0xF8, 0x301], [0x41, 0x30F], [0x61, 0x30F],
    [0x41, 0x311], [0x61, 0x311], [0x45, 0x30F], [0x65, 0x30F], [0x45, 0x311],
    [0x65, 0x311], [0x49, 0x30F], [0x69, 0x30F], [0x49, 0x311], [0x69, 0x311],
    [0x4F, 0x30F], [0x6F, 0x30F], [0x4F, 0x311], [0x6F, 0x311], [0x52, 0x30F],
    [0x72, 0x30F], [0x52, 0x311], [0x72, 0x311], [0x55, 0x30F], [0x75, 0x30F],
    [0x55, 0x311], [0x75, 0x311], [0x53, 0x326], [0x73, 0x326], [0x54, 0x326], [0x74, 0x326]]⟩,
  ⟨0x21E, [[0x48, 0x30C], [0x68, 0x30C]]⟩,
  ⟨0x226, [
    [0x41, 0x307], [0x61, 0x307], [0x45, 0x327], [0x65, 0x327], [0x4F, 0x308, 0x304],
    [0x6F, 0x308, 0x304], [0x4F, 0x303, 0x304], [0x6F, 0x303, 0x304], [0x4F, 0x307],
    [0x6F, 0x307], [0x4F, 0x307, 0x304], [0x6F, 0x307, 0x304], [0x59, 0x304], [0x79, 0x304]]⟩,
  ⟨0x385, [[0xA8, 0x301], [0x391, 0x301]]⟩,
  ⟨0x388, [[0x395, 0x301], [0x397, 0x301], [0x399, 0x301]]⟩, ⟨0x38C, [[0x39F, 0x301]]⟩,
  ⟨0x38E, [[0x3A5, 0x301], [0x3A9, 0x301], [0x3B9, 0x308, 0x301]]⟩,
  ⟨0x3AA, [
    [0x399, 0x308], [0x3A5, 0x308], [0x3B1, 0x301], [0x3B5, 0x301], [0x3B7, 0x301],
    [0x3B9, 0x301], [0x3C5, 0x308, 0x301]]⟩,
  ⟨0x3CA, [[0x3B9, 0x308], [0x3C5, 0x308], [0x3BF, 0x301], [0x3C5, 0x301], [0x3C9, 0x301]]⟩,
  ⟨0x3D3, [[0x3D2, 0x301], [0x3D2, 0x308]]⟩, ⟨0x400, [[0x415, 0x300], [0x415, 0x308]]⟩,
  ⟨0x403, [[0x413, 0x301]]⟩, ⟨0x407, [[0x406, 0x308]]⟩,
  ⟨0x40C, [[0x41A, 0x301], [0x418, 0x300], [0x423, 0x306]]⟩, ⟨0x419, [[0x418, 0x306]]⟩,
  ⟨0x439, [[0x438, 0x306]]⟩, ⟨0x450, [[0x435, 0x300], [0x435, 0x308]]⟩,
  ⟨0x453, [[0x433, 0x301]]⟩, ⟨0x457, [[0x456, 0x308]]⟩,
  ⟨0x45C, [[0x43A, 0x301], [0x438, 0x300], [0x443, 0x306]]⟩,
  ⟨0x476, [[0x474, 0x30F], [0x475, 0x30F]]⟩, ⟨0x4C1, [[0x416, 0x306], [0x436, 0x306]]⟩,
  ⟨0x4D0, [[0x410, 0x306], [0x430, 0x306], [0x410, 0x308], [0x430, 0x308]]⟩,
  ⟨0x4D6, [[0x415, 0x306], [0x435, 0x306]]⟩,
  ⟨0x4DA, [
    [0x4D8, 0x308], [0x4D9, 0x308], [0x416, 0x308], [0x436, 0x308], [0x417, 0x308],
    [0x437, 0x308]]⟩,
  ⟨0x4E2, [
    [0x418, 0x304], [0x438, 0x304], [0x418, 0x308], [0x438, 0x308], [0x41E, 0x308],
    [0x43E, 0x308]]⟩,
  ⟨0x4EA, [
    [0x4E8, 0x308], [0x4E9, 0x308], [0x42D, 0x308], [0x44D, 0x308], [0x423, 0x304],
    [0x443, 0x304], [0x423, 0x308], [0x443, 0x308], [0x423, 0x30B], [0x443, 0x30B],
    [0x427, 0x308], [0x447, 0x308]]⟩,
  ⟨0x4F8, [[0x42B, 0x308], [0x44B, 0x308]]⟩,
  ⟨0x622, [[0x627, 0x653], [0x627, 0x654], [0x648, 0x654], [0x627, 0x655], [0x64A, 0x654]]⟩,
  ⟨0x6C0, [[0x6D5, 0x654]]⟩, ⟨0x6C2, [[0x6C1, 0x654]]⟩, ⟨0x6D3, [[0x6D2, 0x654]]⟩,
  ⟨0x929, [[0x928, 0x93C]]⟩, ⟨0x931, [[0x930, 0x93C]]⟩, ⟨0x934, [[0x933, 0x93C]]⟩,
  ⟨0x9CB, [[0x9C7, 0x9BE], [0x9C7, 0x9D7]]⟩, ⟨0xB48, [[0xB47, 0xB56]]⟩,
  ⟨0xB4B, [[0xB47, 0xB3E], [0xB47, 0xB57]]⟩, ⟨0xB94, [[0xB92, 0xBD7]]⟩,
  ⟨0xBCA, [[0xBC6, 0xBBE], [0xBC7, 0xBBE], [0xBC6, 0xBD7]]⟩, ⟨0xC48, [[0xC46, 0xC56]]⟩,
  ⟨0xCC0, [[0xCBF, 0xCD5]]⟩, ⟨0xCC7, [[0xCC6, 0xCD5], [0xCC6, 0xCD6]]⟩,
  ⟨0xCCA, [[0xCC6, 0xCC2], [0xCC6, 0xCC2, 0xCD5]]⟩,
  ⟨0xD4A, [[0xD46, 0xD3E], [0xD47, 0xD3E], [0xD46, 0xD57]]⟩, ⟨0xDDA, [[0xDD9, 0xDCA]]⟩,
  ⟨0xDDC, [[0xDD9, 0xDCF], [0xDD9, 0xDCF, 0xDCA], [0xDD9, 0xDDF]]⟩,
  ⟨0x1026, [[0x1025, 0x102E]]⟩, ⟨0x1B06, [[0x1B05, 0x1B35]]⟩, ⟨0x1B08, [[0x1B07, 0x1B35]]⟩,
  ⟨0x1B0A, [[0x1B09, 0x1B35]]⟩, ⟨0x1B0C, [[0x1B0B, 0x1B35]]⟩, ⟨0x1B0E, [[0x1B0D, 0x1B35]]⟩,
  ⟨0x1B12, [[0x1B11, 0x1B35]]⟩, ⟨0x1B3B, [[0x1B3A, 0x1B35]]⟩, ⟨0x1B3D, [[0x1B3C, 0x1B35]]⟩,
  ⟨0x1B40, [[0x1B3E, 0x1B35], [0x1B3F, 0x1B35]]⟩, ⟨0x1B43, [[0x1B42, 0x1B35]]⟩,
  ⟨0x1E00, [
    [0x41, 0x325], [0x61, 0x325], [0x42, 0x307], [0x62, 0x307], [0x42, 0x323],
    [0x62, 0x323], [0x42, 0x331], [0x62, 0x331], [0x43, 0x327, 0x301], [0x63, 0x327, 0x301],
    [0x44, 0x307], [0x64, 0x307], [0x44, 0x323], [0x64, 0x323], [0x44, 0x331],
    [0x64, 0x331], [0x44, 0x327], [0x64, 0x327], [0x44, 0x32D], [0x64, 0x32D],
    [0x45, 0x304, 0x300], [0x65, 0x304, 0x300], [0x45, 0x304, 0x301], [0x65, 0x304, 0x301],
    [0x45, 0x32D], [0x65, 0x32D], [0x45, 0x330], [0x65, 0x330], [0x45, 0x327, 0x306],
    [0x65, 0x327, 0x306], [0x46, 0x307], [0x66, 0x307], [0x47, 0x304], [0x67, 0x304],
    [0x48, 0x307], [0x68, 0x307], [0x48, 0x323], [0x68, 0x323], [0x48, 0x308],
    [0x68, 0x308], [0x48, 0x327], [0x68, 0x327], [0x48, 0x32E], [0x68, 0x32E],
    [0x49, 0x330], [0x69, 0x330], [0x49, 0x308, 0x301], [0x69, 0x308, 0x301], [0x4B, 0x301],
    [0x6B, 0x301], [0x4B, 0x323], [0x6B, 0x323], [0x4B, 0x331], [0x6B, 0x331],
    [0x4C, 0x323], [0x6C, 0x323], [0x4C, 0x323, 0x304], [0x6C, 0x323, 0x304], [0x4C, 0x331],
    [0x6C, 0x331], [0x4C, 0x32D], [0x6C, 0x32D], [0x4D, 0x301], [0x6D, 0x301],
    [0x4D, 0x307], [0x6D, 0x307], [0x4D, 0x323], [0x6D, 0x323], [0x4E, 0x307],
    [0x6E, 0x307], [0x4E, 0x323], [0x6E, 0x323], [0x4E, 0x331], [0x6E, 0x331],
    [0x4E, 0x32D], [0x6E, 0x32D], [0x4F, 0x303, 0x301], [0x6F, 0x303, 0x301],
    [0x4F, 0x303, 0x308], [0x6F, 0x303, 0x308], [0x4F, 0x304, 0x300], [0x6F, 0x304, 0x300],
    [0x4F, 0x304, 0x301], [0x6F, 0x304, 0x301], [0x50, 0x301], [0x70, 0x301], [0x50, 0x307],
    [0x70, 0x307], [0x52, 0x307], [0x72, 0x307], [0x52, 0x323], [0x72, 0x323],
    [0x52, 0x323, 0x304], [0x72, 0x323, 0x304], [0x52, 0x331], [0x72, 0x331], [0x53, 0x307],
    [0x73, 0x307], [0x53, 0x323], [0x73, 0x323]]⟩,
  ⟨0x1E64, [
    [0x53, 0x301, 0x307], [0x73, 0x301, 0x307], [0x53, 0x30C, 0x307], [0x73, 0x30C, 0x307],
    [0x53, 0x323, 0x307], [0x73, 0x323, 0x307], [0x54, 0x307], [0x74, 0x307], [0x54, 0x323],
    [0x74, 0x323], [0x54, 0x331], [0x74, 0x331], [0x54, 0x32D], [0x74, 0x32D],
    [0x55, 0x324], [0x75, 0x324], [0x55, 0x330], [0x75, 0x330], [0x55, 0x32D],
    [0x75, 0x32D], [0x55, 0x303, 0x301], [0x75, 0x303, 0x301], [0x55, 0x304, 0x308],
    [0x75, 0x304, 0x308], [0x56, 0x303], [0x76, 0x303], [0x56, 0x323], [0x76, 0x323],
    [0x57, 0x300], [0x77, 0x300], [0x57, 0x301], [0x77, 0x301], [0x57, 0x308],
    [0x77, 0x308], [0x57, 0x307], [0x77, 0x307], [0x57, 0x323], [0x77, 0x323],
    [0x58, 0x307], [0x78, 0x307], [0x58, 0x308], [0x78, 0x308], [0x59, 0x307],
    [0x79, 0x307], [0x5A, 0x302], [0x7A, 0x302], [0x5A, 0x323], [0x7A, 0x323],
    [0x5A, 0x331], [0x7A, 0x331], [0x68, 0x331], [0x74, 0x308], [0x77, 0x30A], [0x79, 0x30A]]⟩,
  ⟨0x1E9B, [[0x17F, 0x307]]⟩,
  ⟨0x1EA0, [
    [0x41, 0x323], [0x61, 0x323], [0x41, 0x309], [0x61, 0x309], [0x41, 0x302, 0x301],
    [0x61, 0x302, 0x301], [0x41, 0x302, 0x300], [0x61, 0x302, 0x300], [0x41, 0x302, 0x309],
    [0x61, 0x302, 0x309], [0x41, 0x302, 0x303], [0x61, 0x302, 0x303], [0x41, 0x323, 0x302],
    [0x61, 0x323, 0x302], [0x41, 0x306, 0x301], [0x61, 0x306, 0x301], [0x41, 0x306, 0x300],
    [0x61, 0x306, 0x300], [0x41, 0x306, 0x309], [0x61, 0x306, 0x309], [0x41, 0x306, 0x303],
    [0x61, 0x306, 0x303], [0x41, 0x323, 0x306], [0x61, 0x323, 0x306], [0x45, 0x323],
    [0x65, 0x323], [0x45, 0x309], [0x65, 0x309], [0x45, 0x303], [0x65, 0x303],
    [0x45, 0x302, 0x301], [0x65, 0x302, 0x301], [0x45, 0x302, 0x300], [0x65, 0x302, 0x300],
    [0x45, 0x302, 0x309], [0x65, 0x302, 0x309], [0x45, 0x302, 0x303], [0x65, 0x302, 0x303],
    [0x45, 0x323, 0x302], [0x65, 0x323, 0x302], [0x49, 0x309], [0x69, 0x309], [0x49, 0x323],
    [0x69, 0x323], [0x4F, 0x323], [0x6F, 0x323], [0x4F, 0x309], [0x6F, 0x309],
    [0x4F, 0x302, 0x301], [0x6F, 0x302, 0x301], [0x4F, 0x302, 0x300], [0x6F, 0x302, 0x300],
    [0x4F, 0x302, 0x309], [0x6F, 0x302, 0x309], [0x4F, 0x302, 0x303], [0x6F, 0x302, 0x303],
    [0x4F, 0x323, 0x302], [0x6F, 0x323, 0x302], [0x4F, 0x31B, 0x301], [0x6F, 0x31B, 0x301],
    [0x4F, 0x31B, 0x300], [0x6F, 0x31B, 0x300], [0x4F, 0x31B, 0x309], [0x6F, 0x31B, 0x309],
    [0x4F, 0x31B, 0x303], [0x6F, 0x31B, 0x303], [0x4F, 0x31B, 0x323], [0x6F, 0x31B, 0x323],
    [0x55, 0x323], [0x75, 0x323], [0x55, 0x309], [0x75, 0x309], [0x55, 0x31B, 0x301],
    [0x75, 0x31B, 0x301], [0x55, 0x31B, 0x300], [0x75, 0x31B, 0x300], [0x55, 0x31B, 0x309],
    [0x75, 0x31B, 0x309], [0x55, 0x31B, 0x303], [0x75, 0x31B, 0x303], [0x55, 0x31B, 0x323],
    [0x75, 0x31B, 0x323], [0x59, 0x300], [0x79, 0x300], [0x59, 0x323], [0x79, 0x323],
    [0x59, 0x309], [0x79, 0x309], [0x59, 0x303], [0x79, 0x303]]⟩,
  ⟨0x1F00, [
    [0x3B1, 0x313], [0x3B1, 0x314], [0x3B1, 0x313, 0x300], [0x3B1, 0x314, 0x300],
    [0x3B1, 0x313, 0x301], [0x3B1, 0x314, 0x301], [0x3B1, 0x313, 0x342],
    [0x3B1, 0x314, 0x342], [0x391, 0x313], [0x391, 0x314], [0x391, 0x313, 0x300],
    [0x391, 0x314, 0x300], [0x391, 0x313, 0x301], [0x391, 0x314, 0x301],
    [0x391, 0x313, 0x342], [0x391, 0x314, 0x342], [0x3B5, 0x313], [0x3B5, 0x314],
    [0x3B5, 0x313, 0x300], [0x3B5, 0x314, 0x300], [0x3B5, 0x313, 0x301],
    [0x3B5, 0x314, 0x301]]⟩,
  ⟨0x1F18, [
    [0x395, 0x313], [0x395, 0x314], [0x395, 0x313, 0x300], [0x395, 0x314, 0x300],
    [0x395, 0x313, 0x301], [0x395, 0x314, 0x301]]⟩,
  ⟨0x1F20, [
    [0x3B7, 0x313], [0x3B7, 0x314], [0x3B7, 0x313, 0x300], [0x3B7, 0x314, 0x300],
    [0x3B7, 0x313, 0x301], [0x3B7, 0x314, 0x301], [0x3B7, 0x313, 0x342],
    [0x3B7, 0x314, 0x342], [0x397, 0x313], [0x397, 0x314], [0x397, 0x313, 0x300],
    [0x397, 0x314, 0x300], [0x397, 0x313, 0x301], [0x397, 0x314, 0x301],
    [0x397, 0x313, 0x342], [0x397, 0x314, 0x342], [0x3B9, 0x313], [0x3B9, 0x314],
    [0x3B9, 0x313, 0x300], [0x3B9, 0x314, 0x300], [0x3B9, 0x313, 0x301],
    [0x3B9, 0x314, 0x301], [0x3B9, 0x313, 0x342], [0x3B9, 0x314, 0x342], [0x399, 0x313],
    [0x399, 0x314], [0x399, 0x313, 0x300], [0x399, 0x314, 0x300], [0x399, 0x313, 0x301],
    [0x399, 0x314, 0x301], [0x399, 0x313, 0x342], [0x399, 0x314, 0x342], [0x3BF, 0x313],
    [0x3BF, 0x314], [0x3BF, 0x313, 0x300], [0x3BF, 0x314, 0x300], [0x3BF, 0x313, 0x301],
    [0x3BF, 0x314, 0x301]]⟩,
  ⟨0x1F48, [
    [0x39F, 0x313], [0x39F, 0x314], [0x39F, 0x313, 0x300], [0x39F, 0x314, 0x300],
    [0x39F, 0x313, 0x301], [0x39F, 0x314, 0x301]]⟩,
  ⟨0x1F50, [
    [0x3C5, 0x313], [0x3C5, 0x314], [0x3C5, 0x313, 0x300], [0x3C5, 0x314, 0x300],
    [0x3C5, 0x313, 0x301], [0x3C5, 0x314, 0x301], [0x3C5, 0x313, 0x342],
    [0x3C5, 0x314, 0x342]]⟩,
  ⟨0x1F59, [[0x3A5, 0x314]]⟩, ⟨0x1F5B, [[0x3A5, 0x314, 0x300]]⟩,
  ⟨0x1F5D, [[0x3A5, 0x314, 0x301]]⟩,
  ⟨0x1F5F, [
    [0x3A5, 0x314, 0x342], [0x3C9, 0x313], [0x3C9, 0x314], [0x3C9, 0x313, 0x300],
    [0x3C9, 0x314, 0x300], [0x3C9, 0x313, 0x301], [0x3C9, 0x314, 0x301],
    [0x3C9, 0x313, 0x342], [0x3C9, 0x314, 0x342], [0x3A9, 0x313], [0x3A9, 0x314],
    [0x3A9, 0x313, 0x300], [0x3A9, 0x314, 0x300], [0x3A9, 0x313, 0x301],
    [0x3A9, 0x314, 0x301], [0x3A9, 0x313, 0x342], [0x3A9, 0x314, 0x342], [0x3B1, 0x300]]⟩,
  ⟨0x1F72, [[0x3B5, 0x300]]⟩, ⟨0x1F74, [[0x3B7, 0x300]]⟩, ⟨0x1F76, [[0x3B9, 0x300]]⟩,
  ⟨0x1F78, [[0x3BF, 0x300]]⟩, ⟨0x1F7A, [[0x3C5, 0x300]]⟩, ⟨0x1F7C, [[0x3C9, 0x300]]⟩,
  ⟨0x1F80, [
    [0x3B1, 0x313, 0x345], [0x3B1, 0x314, 0x345], [0x3B1, 0x313, 0x300, 0x345],
    [0x3B1, 0x314, 0x300, 0x345], [0x3B1, 0x313, 0x301, 0x345],
    [0x3B1, 0x314, 0x301, 0x345], [0x3B1, 0x313, 0x342, 0x345],
    [0x3B1, 0x314, 0x342, 0x345], [0x391, 0x313, 0x345], [0x391, 0x314, 0x345],
    [0x391, 0x313, 0x300, 0x345], [0x391, 0x314, 0x300, 0x345],
    [0x391, 0x313, 0x301, 0x345], [0x391, 0x314, 0x301, 0x345],
    [0x391, 0x313, 0x342, 0x345], [0x391, 0x314, 0x342, 0x345], [0x3B7, 0x313, 0x345],
    [0x3B7, 0x314, 0x345], [0x3B7, 0x313, 0x300, 0x345], [0x3B7, 0x314, 0x300, 0x345],
    [0x3B7, 0x313, 0x301, 0x345], [0x3B7, 0x314, 0x301, 0x345],
    [0x3B7, 0x313, 0x342, 0x345], [0x3B7, 0x314, 0x342, 0x345], [0x397, 0x313, 0x345],
    [0x397, 0x314, 0x345], [0x397, 0x313, 0x300, 0x345], [0x397, 0x314, 0x300, 0x345],
    [0x397, 0x313, 0x301, 0x345], [0x397, 0x314, 0x301, 0x345],
    [0x397, 0x313, 0x342, 0x345], [0x397, 0x314, 0x342, 0x345], [0x3C9, 0x313, 0x345],
    [0x3C9, 0x314, 0x345], [0x3C9, 0x313, 0x300, 0x345], [0x3C9, 0x314, 0x300, 0x345],
    [0x3C9, 0x313, 0x301, 0x345], [0x3C9, 0x314, 0x301, 0x345],
    [0x3C9, 0x313, 0x342, 0x345], [0x3C9, 0x314, 0x342, 0x345], [0x3A9, 0x313, 0x345],
    [0x3A9, 0x314, 0x345], [0x3A9, 0x313, 0x300, 0x345], [0x3A9, 0x314, 0x300, 0x345],
    [0x3A9, 0x313, 0x301, 0x345], [0x3A9, 0x314, 0x301, 0x345],
    [0x3A9, 0x313, 0x342, 0x345], [0x3A9, 0x314, 0x342, 0x345], [0x3B1, 0x306],
    [0x3B1, 0x304], [0x3B1, 0x300, 0x345], [0x3B1, 0x345], [0x3B1, 0x301, 0x345]]⟩,
  ⟨0x1FB6, [
    [0x3B1, 0x342], [0x3B1, 0x342, 0x345], [0x391, 0x306], [0x391, 0x304], [0x391, 0x300]]⟩,
  ⟨0x1FBC, [[0x391, 0x345]]⟩,
  ⟨0x1FC1, [[0xA8, 0x342], [0x3B7, 0x300, 0x345], [0x3B7, 0x345], [0x3B7, 0x301, 0x345]]⟩,
  ⟨0x1FC6, [[0x3B7, 0x342], [0x3B7, 0x342, 0x345], [0x395, 0x300]]⟩,
  ⟨0x1FCA, [[0x397, 0x300]]⟩,
  ⟨0x1FCC, [
    [0x397, 0x345], [0x1FBF, 0x300], [0x1FBF, 0x301], [0x1FBF, 0x342], [0x3B9, 0x306],
    [0x3B9, 0x304], [0x3B9, 0x308, 0x300]]⟩,
  ⟨0x1FD6, [
    [0x3B9, 0x342], [0x3B9, 0x308, 0x342], [0x399, 0x306], [0x399, 0x304], [0x399, 0x300]]⟩,
  ⟨0x1FDD, [
    [0x1FFE, 0x300], [0x1FFE, 0x301], [0x1FFE, 0x342], [0x3C5, 0x306], [0x3C5, 0x304],
    [0x3C5, 0x308, 0x300]]⟩,
  ⟨0x1FE4, [
    [0x3C1, 0x313], [0x3C1, 0x314], [0x3C5, 0x342], [0x3C5, 0x308, 0x342], [0x3A5, 0x306],
    [0x3A5, 0x304], [0x3A5, 0x300]]⟩,
  ⟨0x1FEC, [[0x3A1, 0x314], [0xA8, 0x300]]⟩,
  ⟨0x1FF2, [[0x3C9, 0x300, 0x345], [0x3C9, 0x345], [0x3C9, 0x301, 0x345]]⟩,
  ⟨0x1FF6, [[0x3C9, 0x342], [0x3C9, 0x342, 0x345], [0x39F, 0x300]]⟩,
  ⟨0x1FFA, [[0x3A9, 0x300]]⟩, ⟨0x1FFC, [[0x3A9, 0x345]]⟩,
  ⟨0x219A, [[0x2190, 0x338], [0x2192, 0x338]]⟩, ⟨0x21AE, [[0x2194, 0x338]]⟩,
  ⟨0x21CD, [[0x21D0, 0x338], [0x21D4, 0x338], [0x21D2, 0x338]]⟩,
  ⟨0x2204, [[0x2203, 0x338]]⟩, ⟨0x2209, [[0x2208, 0x338]]⟩, ⟨0x220C, [[0x220B, 0x338]]⟩,
  ⟨0x2224, [[0x2223, 0x338]]⟩, ⟨0x2226, [[0x2225, 0x338]]⟩, ⟨0x2241, [[0x223C, 0x338]]⟩,
  ⟨0x2244, [[0x2243, 0x338]]⟩, ⟨0x2247, [[0x2245, 0x338]]⟩, ⟨0x2249, [[0x2248, 0x338]]⟩,
  ⟨0x2260, [[0x3D, 0x338]]⟩, ⟨0x2262, [[0x2261, 0x338]]⟩,
  ⟨0x226D, [
    [0x224D, 0x338], [0x3C, 0x338], [0x3E, 0x338], [0x2264, 0x338], [0x2265, 0x338]]⟩,
  ⟨0x2274, [[0x2272, 0x338], [0x2273, 0x338]]⟩,
  ⟨0x2278, [[0x2276, 0x338], [0x2277, 0x338]]⟩,
  ⟨0x2280, [[0x227A, 0x338], [0x227B, 0x338]]⟩,
  ⟨0x2284, [[0x2282, 0x338], [0x2283, 0x338]]⟩,
  ⟨0x2288, [[0x2286, 0x338], [0x2287, 0x338]]⟩,
  ⟨0x22AC, [[0x22A2, 0x338], [0x22A8, 0x338], [0x22A9, 0x338], [0x22AB, 0x338]]⟩,
  ⟨0x22E0, [[0x227C, 0x338], [0x227D, 0x338], [0x2291, 0x338], [0x2292, 0x338]]⟩,
  ⟨0x22EA, [[0x22B2, 0x338], [0x22B3, 0x338], [0x22B4, 0x338], [0x22B5, 0x338]]⟩,
  ⟨0x304C, [[0x304B, 0x3099]]⟩, ⟨0x304E, [[0x304D, 0x3099]]⟩, ⟨0x3050, [[0x304F, 0x3099]]⟩,
  ⟨0x3052, [[0x3051, 0x3099]]⟩, ⟨0x3054, [[0x3053, 0x3099]]⟩, ⟨0x3056, [[0x3055, 0x3099]]⟩,
  ⟨0x3058, [[0x3057, 0x3099]]⟩, ⟨0x305A, [[0x3059, 0x3099]]⟩, ⟨0x305C, [[0x305B, 0x3099]]⟩,
  ⟨0x305E, [[0x305D, 0x3099]]⟩, ⟨0x3060, [[0x305F, 0x3099]]⟩, ⟨0x3062, [[0x3061, 0x3099]]⟩,
  ⟨0x3065, [[0x3064, 0x3099]]⟩, ⟨0x3067, [[0x3066, 0x3099]]⟩, ⟨0x3069, [[0x3068, 0x3099]]⟩,
  ⟨0x3070, [[0x306F, 0x3099], [0x306F, 0x309A]]⟩,
  ⟨0x3073, [[0x3072, 0x3099], [0x3072, 0x309A]]⟩,
  ⟨0x3076, [[0x3075, 0x3099], [0x3075, 0x309A]]⟩,
  ⟨0x3079, [[0x3078, 0x3099], [0x3078, 0x309A]]⟩,
  ⟨0x307C, [[0x307B, 0x3099], [0x307B, 0x309A]]⟩, ⟨0x3094, [[0x3046, 0x3099]]⟩,
  ⟨0x309E, [[0x309D, 0x3099]]⟩, ⟨0x30AC, [[0x30AB, 0x3099]]⟩, ⟨0x30AE, [[0x30AD, 0x3099]]⟩,
  ⟨0x30B0, [[0x30AF, 0x3099]]⟩, ⟨0x30B2, [[0x30B1, 0x3099]]⟩, ⟨0x30B4, [[0x30B3, 0x3099]]⟩,
  ⟨0x30B6, [[0x30B5, 0x3099]]⟩, ⟨0x30B8, [[0x30B7, 0x3099]]⟩, ⟨0x30BA, [[0x30B9, 0x3099]]⟩,
  ⟨0x30BC, [[0x30BB, 0x3099]]⟩, ⟨0x30BE, [[0x30BD, 0x3099]]⟩, ⟨0x30C0, [[0x30BF, 0x3099]]⟩,
  ⟨0x30C2, [[0x30C1, 0x3099]]⟩, ⟨0x30C5, [[0x30C4, 0x3099]]⟩, ⟨0x30C7, [[0x30C6, 0x3099]]⟩,
  ⟨0x30C9, [[0x30C8, 0x3099]]⟩, ⟨0x30D0, [[0x30CF, 0x3099], [0x30CF, 0x309A]]⟩,
  ⟨0x30D3, [[0x30D2, 0x3099], [0x30D2, 0x309A]]⟩,
  ⟨0x30D6, [[0x30D5, 0x3099], [0x30D5, 0x309A]]⟩,
  ⟨0x30D9, [[0x30D8, 0x3099], [0x30D8, 0x309A]]⟩,
  ⟨0x30DC, [[0x30DB, 0x3099], [0x30DB, 0x309A]]⟩, ⟨0x30F4, [[0x30A6, 0x3099]]⟩,
  ⟨0x30F7, [[0x30EF, 0x3099], [0x30F0, 0x3099], [0x30F1, 0x3099], [0x30F2, 0x3099]]⟩,
  ⟨0x30FE, [[0x30FD, 0x3099]]⟩, ⟨0x105C9, [[0x105D2, 0x307]]⟩,
  ⟨0x105E4, [[0x105DA, 0x307]]⟩, ⟨0x1109A, [[0x11099, 0x110BA]]⟩,
  ⟨0x1109C, [[0x1109B, 0x110BA]]⟩, ⟨0x110AB, [[0x110A5, 0x110BA]]⟩,
  ⟨0x1112E, [[0x11131, 0x11127], [0x11132, 0x11127]]⟩,
  ⟨0x1134B, [[0x11347, 0x1133E], [0x11347, 0x11357]]⟩, ⟨0x11383, [[0x11382, 0x113C9]]⟩,
  ⟨0x11385, [[0x11384, 0x113BB]]⟩, ⟨0x1138E, [[0x1138B, 0x113C2]]⟩,
  ⟨0x11391, [[0x11390, 0x113C9]]⟩, ⟨0x113C5, [[0x113C2, 0x113C2]]⟩,
  ⟨0x113C7, [[0x113C2, 0x113B8], [0x113C2, 0x113C9]]⟩,
  ⟨0x114BB, [[0x114B9, 0x114BA], [0x114B9, 0x114B0]]⟩, ⟨0x114BE, [[0x114B9, 0x114BD]]⟩,
  ⟨0x115BA, [[0x115B8, 0x115AF], [0x115B9, 0x115AF]]⟩, ⟨0x11938, [[0x11935, 0x11930]]⟩,
  ⟨0x16121, [
    [0x1611E, 0x1611E], [0x1611E, 0x16129], [0x1611E, 0x1611F], [0x16129, 0x1611F],
    [0x1611E, 0x16120], [0x1611E, 0x1611E, 0x1611F], [0x1611E, 0x16129, 0x1611F],
    [0x1611E, 0x1611E, 0x16120]]⟩,
  ⟨0x16D68, [[0x16D67, 0x16D67], [0x16D63, 0x16D67], [0x16D63, 0x16D67, 0x16D67]]⟩
]

def oneWay : List Row := [
  ⟨0x340, [[0x300], [0x301]]⟩, ⟨0x343, [[0x313], [0x308, 0x301]]⟩, ⟨0x374, [[0x2B9]]⟩,
  ⟨0x37E, [[0x3B]]⟩, ⟨0x387, [[0xB7]]⟩,
  ⟨0x958, [
    [0x915, 0x93C], [0x916, 0x93C], [0x917, 0x93C], [0x91C, 0x93C], [0x921, 0x93C],
    [0x922, 0x93C], [0x92B, 0x93C], [0x92F, 0x93C]]⟩,
  ⟨0x9DC, [[0x9A1, 0x9BC], [0x9A2, 0x9BC]]⟩, ⟨0x9DF, [[0x9AF, 0x9BC]]⟩,
  ⟨0xA33, [[0xA32, 0xA3C]]⟩, ⟨0xA36, [[0xA38, 0xA3C]]⟩,
  ⟨0xA59, [[0xA16, 0xA3C], [0xA17, 0xA3C], [0xA1C, 0xA3C]]⟩, ⟨0xA5E, [[0xA2B, 0xA3C]]⟩,
  ⟨0xB5C, [[0xB21, 0xB3C], [0xB22, 0xB3C]]⟩, ⟨0xF43, [[0xF42, 0xFB7]]⟩,
  ⟨0xF4D, [[0xF4C, 0xFB7]]⟩, ⟨0xF52, [[0xF51, 0xFB7]]⟩, ⟨0xF57, [[0xF56, 0xFB7]]⟩,
  ⟨0xF5C, [[0xF5B, 0xFB7]]⟩, ⟨0xF69, [[0xF40, 0xFB5]]⟩, ⟨0xF73, [[0xF71, 0xF72]]⟩,
  ⟨0xF75, [[0xF71, 0xF74], [0xFB2, 0xF80]]⟩, ⟨0xF78, [[0xFB3, 0xF80]]⟩,
  ⟨0xF81, [[0xF71, 0xF80]]⟩, ⟨0xF93, [[0xF92, 0xFB7]]⟩, ⟨0xF9D, [[0xF9C, 0xFB7]]⟩,
  ⟨0xFA2, [[0xFA1, 0xFB7]]⟩, ⟨0xFA7, [[0xFA6, 0xFB7]]⟩, ⟨0xFAC, [[0xFAB, 0xFB7]]⟩,
  ⟨0xFB9, [[0xF90, 0xFB5]]⟩, ⟨0x1F71, [[0x3B1, 0x301]]⟩, ⟨0x1F73, [[0x3B5, 0x301]]⟩,
  ⟨0x1F75, [[0x3B7, 0x301]]⟩, ⟨0x1F77, [[0x3B9, 0x301]]⟩, ⟨0x1F79, [[0x3BF, 0x301]]⟩,
  ⟨0x1F7B, [[0x3C5, 0x301]]⟩, ⟨0x1F7D, [[0x3C9, 0x301]]⟩, ⟨0x1FBB, [[0x391, 0x301]]⟩,
  ⟨0x1FBE, [[0x3B9]]⟩, ⟨0x1FC9, [[0x395, 0x301]]⟩, ⟨0x1FCB, [[0x397, 0x301]]⟩,
  ⟨0x1FD3, [[0x3B9, 0x308, 0x301]]⟩, ⟨0x1FDB, [[0x399, 0x301]]⟩,
  ⟨0x1FE3, [[0x3C5, 0x308, 0x301]]⟩, ⟨0x1FEB, [[0x3A5, 0x301]]⟩,
  ⟨0x1FEE, [[0xA8, 0x301], [0x60]]⟩, ⟨0x1FF9, [[0x39F, 0x301]]⟩, ⟨0x1FFB, [[0x3A9, 0x301]]⟩,
  ⟨0x1FFD, [[0xB4]]⟩, ⟨0x2000, [[0x2002], [0x2003]]⟩, ⟨0x2126, [[0x3A9]]⟩,
  ⟨0x212A, [[0x4B], [0x41, 0x30A]]⟩, ⟨0x2329, [[0x3008], [0x3009]]⟩,
  ⟨0x2ADC, [[0x2ADD, 0x338]]⟩,
  ⟨0xF900, [
    [0x8C48], [0x66F4], [0x8ECA], [0x8CC8], [0x6ED1], [0x4E32], [0x53E5], [0x9F9C],
    [0x9F9C], [0x5951], [0x91D1], [0x5587], [0x5948], [0x61F6], [0x7669], [0x7F85],
    [0x863F], [0x87BA], [0x88F8], [0x908F], [0x6A02], [0x6D1B], [0x70D9], [0x73DE],
    [0x843D], [0x916A], [0x99F1], [0x4E82], [0x5375], [0x6B04], [0x721B], [0x862D],
    [0x9E1E], [0x5D50], [0x6FEB], [0x85CD], [0x8964], [0x62C9], [0x81D8], [0x881F],
    [0x5ECA], [0x6717], [0x6D6A], [0x72FC], [0x90CE], [0x4F86], [0x51B7], [0x52DE],
    [0x64C4], [0x6AD3], [0x7210], [0x76E7], [0x8001], [0x8606], [0x865C], [0x8DEF],
    [0x9732], [0x9B6F], [0x9DFA], [0x788C], [0x797F], [0x7DA0], [0x83C9], [0x9304],
    [0x9E7F], [0x8AD6], [0x58DF], [0x5F04], [0x7C60], [0x807E], [0x7262], [0x78CA],
    [0x8CC2], [0x96F7], [0x58D8], [0x5C62], [0x6A13], [0x6DDA], [0x6F0F], [0x7D2F],
    [0x7E37], [0x964B], [0x52D2], [0x808B], [0x51DC], [0x51CC], [0x7A1C], [0x7DBE],
    [0x83F1], [0x9675], [0x8B80], [0x62CF], [0x6A02], [0x8AFE], [0x4E39], [0x5BE7],
    [0x6012], [0x7387], [0x7570], [0x5317]]⟩,
  ⟨0xF964, [
    [0x78FB], [0x4FBF], [0x5FA9], [0x4E0D], [0x6CCC], [0x6578], [0x7D22], [0x53C3],
    [0x585E], [0x7701], [0x8449], [0x8AAA], [0x6BBA], [0x8FB0], [0x6C88], [0x62FE],
    [0x82E5], [0x63A0], [0x7565], [0x4EAE], [0x5169], [0x51C9], [0x6881], [0x7CE7],
    [0x826F], [0x8AD2], [0x91CF], [0x52F5], [0x5442], [0x5973], [0x5EEC], [0x65C5],
    [0x6FFE], [0x792A], [0x95AD], [0x9A6A], [0x9E97], [0x9ECE], [0x529B], [0x66C6],
    [0x6B77], [0x8F62], [0x5E74], [0x6190], [0x6200], [0x649A], [0x6F23], [0x7149],
    [0x7489], [0x79CA], [0x7DF4], [0x806F], [0x8F26], [0x84EE], [0x9023], [0x934A],
    [0x5217], [0x52A3], [0x54BD], [0x70C8], [0x88C2], [0x8AAA], [0x5EC9], [0x5FF5],
    [0x637B], [0x6BAE], [0x7C3E], [0x7375], [0x4EE4], [0x56F9], [0x5BE7], [0x5DBA],
    [0x601C], [0x73B2], [0x7469], [0x7F9A], [0x8046], [0x9234], [0x96F6], [0x9748],
    [0x9818], [0x4F8B], [0x79AE], [0x91B4], [0x96B8], [0x60E1], [0x4E86], [0x50DA],
    [0x5BEE], [0x5C3F], [0x6599], [0x6A02], [0x71CE], [0x7642], [0x84FC], [0x907C],
    [0x9F8D], [0x6688], [0x962E], [0x5289]]⟩,
  ⟨0xF9C8, [
    [0x677B], [0x67F3], [0x6D41], [0x6E9C], [0x7409], [0x7559], [0x786B], [0x7D10],
    [0x985E], [0x516D], [0x622E], [0x9678], [0x502B], [0x5D19], [0x6DEA], [0x8F2A],
    [0x5F8B], [0x6144], [0x6817], [0x7387], [0x9686], [0x5229], [0x540F], [0x5C65],
    [0x6613], [0x674E], [0x68A8], [0x6CE5], [0x7406], [0x75E2], [0x7F79], [0x88CF],
    [0x88E1], [0x91CC], [0x96E2], [0x533F], [0x6EBA], [0x541D], [0x71D0], [0x7498],
    [0x85FA], [0x96A3], [0x9C57], [0x9E9F], [0x6797], [0x6DCB], [0x81E8], [0x7ACB],
    [0x7B20], [0x7C92], [0x72C0], [0x7099], [0x8B58], [0x4EC0], [0x8336], [0x523A],
    [0x5207], [0x5EA6], [0x62D3], [0x7CD6], [0x5B85], [0x6D1E], [0x66B4], [0x8F3B],
    [0x884C], [0x964D], [0x898B], [0x5ED3], [0x5140], [0x55C0]]⟩,
  ⟨0xFA10, [[0x585A]]⟩, ⟨0xFA12, [[0x6674]]⟩,
  ⟨0xFA15, [
    [0x51DE], [0x732A], [0x76CA], [0x793C], [0x795E], [0x7965], [0x798F], [0x9756],
    [0x7CBE], [0x7FBD]]⟩,
  ⟨0xFA20, [[0x8612]]⟩, ⟨0xFA22, [[0x8AF8]]⟩, ⟨0xFA25, [[0x9038], [0x90FD]]⟩,
  ⟨0xFA2A, [
    [0x98EF], [0x98FC], [0x9928], [0x9DB4], [0x90DE], [0x96B7], [0x4FAE], [0x50E7],
    [0x514D], [0x52C9], [0x52E4], [0x5351], [0x559D], [0x5606], [0x5668], [0x5840],
    [0x58A8], [0x5C64], [0x5C6E], [0x6094], [0x6168], [0x618E], [0x61F2], [0x654F],
    [0x65E2], [0x6691], [0x6885], [0x6D77], [0x6E1A], [0x6F22], [0x716E], [0x722B],
    [0x7422], [0x7891], [0x793E], [0x7949], [0x7948], [0x7950], [0x7956], [0x795D],
    [0x798D], [0x798E], [0x7A40], [0x7A81], [0x7BC0], [0x7DF4], [0x7E09], [0x7E41],
    [0x7F72], [0x8005], [0x81ED], [0x8279], [0x8279], [0x8457], [0x8910], [0x8996],
    [0x8B01], [0x8B39], [0x8CD3], [0x8D08], [0x8FB6], [0x9038], [0x96E3], [0x97FF],
    [0x983B], [0x6075], [0x242EE], [0x8218]]⟩,
  ⟨0xFA70, [
    [0x4E26], [0x51B5], [0x5168], [0x4F80], [0x5145], [0x5180], [0x52C7], [0x52FA],
    [0x559D], [0x5555], [0x5599], [0x55E2], [0x585A], [0x58B3], [0x5944], [0x5954],
    [0x5A62], [0x5B28], [0x5ED2], [0x5ED9], [0x5F69], [0x5FAD], [0x60D8], [0x614E],
    [0x6108], [0x618E], [0x6160], [0x61F2], [0x6234], [0x63C4], [0x641C], [0x6452],
    [0x6556], [0x6674], [0x6717], [0x671B], [0x6756], [0x6B79], [0x6BBA], [0x6D41],
    [0x6EDB], [0x6ECB], [0x6F22], [0x701E], [0x716E], [0x77A7], [0x7235], [0x72AF],
    [0x732A], [0x7471], [0x7506], [0x753B], [0x761D], [0x761F], [0x76CA], [0x76DB],
    [0x76F4], [0x774A], [0x7740], [0x78CC], [0x7AB1], [0x7BC0], [0x7C7B], [0x7D5B],
    [0x7DF4], [0x7F3E], [0x8005], [0x8352], [0x83EF], [0x8779], [0x8941], [0x8986],
    [0x8996], [0x8ABF], [0x8AF8], [0x8ACB], [0x8B01], [0x8AFE], [0x8AED], [0x8B39],
    [0x8B8A], [0x8D08], [0x8F38], [0x9072], [0x9199], [0x9276], [0x967C], [0x96E3],
    [0x9756], [0x97DB], [0x97FF], [0x980B], [0x983B], [0x9B12], [0x9F9C], [0x2284A],
    [0x22844], [0x233D5], [0x3B9D], [0x4018]]⟩,
  ⟨0xFAD4, [[0x4039], [0x25249], [0x25CD0], [0x27ED3], [0x9F43], [0x9F8E]]⟩,
  ⟨0xFB1D, [[0x5D9, 0x5B4]]⟩, ⟨0xFB1F, [[0x5F2, 0x5B7]]⟩,
  ⟨0xFB2A, [
    [0x5E9, 0x5C1], [0x5E9, 0x5C2], [0x5E9, 0x5BC, 0x5C1], [0x5E9, 0x5BC, 0x5C2],
    [0x5D0, 0x5B7], [0x5D0, 0x5B8], [0x5D0, 0x5BC], [0x5D1, 0x5BC], [0x5D2, 0x5BC],
    [0x5D3, 0x5BC], [0x5D4, 0x5BC], [0x5D5, 0x5BC], [0x5D6, 0x5BC]]⟩,
  ⟨0xFB38, [
    [0x5D8, 0x5BC], [0x5D9, 0x5BC], [0x5DA, 0x5BC], [0x5DB, 0x5BC], [0x5DC, 0x5BC]]⟩,
  ⟨0xFB3E, [[0x5DE, 0x5BC]]⟩, ⟨0xFB40, [[0x5E0, 0x5BC], [0x5E1, 0x5BC]]⟩,
  ⟨0xFB43, [[0x5E3, 0x5BC], [0x5E4, 0x5BC]]⟩,
  ⟨0xFB46, [
    [0x5E6, 0x5BC], [0x5E7, 0x5BC], [0x5E8, 0x5BC], [0x5E9, 0x5BC], [0x5EA, 0x5BC],
    [0x5D5, 0x5B9], [0x5D1, 0x5BF], [0x5DB, 0x5BF], [0x5E4, 0x5BF]]⟩,
  ⟨0x1D15E, [
    [0x1D157, 0x1D165], [0x1D158, 0x1D165], [0x1D158, 0x1D165, 0x1D16E],
    [0x1D158, 0x1D165, 0x1D16F], [0x1D158, 0x1D165, 0x1D170], [0x1D158, 0x1D165, 0x1D171],
    [0x1D158, 0x1D165, 0x1D172]]⟩,
  ⟨0x1D1BB, [
    [0x1D1B9, 0x1D165], [0x1D1BA, 0x1D165], [0x1D1B9, 0x1D165, 0x1D16E],
    [0x1D1BA, 0x1D165, 0x1D16E], [0x1D1B9, 0x1D165, 0x1D16F], [0x1D1BA, 0x1D165, 0x1D16F]]⟩,
  ⟨0x2F800, [
    [0x4E3D], [0x4E38], [0x4E41], [0x20122], [0x4F60], [0x4FAE], [0x4FBB], [0x5002],
    [0x507A], [0x5099], [0x50E7], [0x50CF], [0x349E], [0x2063A], [0x514D], [0x5154],
    [0x5164], [0x5177], [0x2051C], [0x34B9], [0x5167], [0x518D], [0x2054B], [0x5197],
    [0x51A4], [0x4ECC], [0x51AC], [0x51B5], [0x291DF], [0x51F5], [0x5203], [0x34DF],
    [0x523B], [0x5246], [0x5272], [0x5277], [0x3515], [0x52C7], [0x52C9], [0x52E4],
    [0x52FA], [0x5305], [0x5306], [0x5317], [0x5349], [0x5351], [0x535A], [0x5373],
    [0x537D], [0x537F], [0x537F], [0x537F], [0x20A2C], [0x7070], [0x53CA], [0x53DF],
    [0x20B63], [0x53EB], [0x53F1], [0x5406], [0x549E], [0x5438], [0x5448], [0x5468],
    [0x54A2], [0x54F6], [0x5510], [0x5553], [0x5563], [0x5584], [0x5584], [0x5599],
    [0x55AB], [0x55B3], [0x55C2], [0x5716], [0x5606], [0x5717], [0x5651], [0x5674],
    [0x5207], [0x58EE], [0x57CE], [0x57F4], [0x580D], [0x578B], [0x5832], [0x5831],
    [0x58AC], [0x214E4], [0x58F2], [0x58F7], [0x5906], [0x591A], [0x5922], [0x5962],
    [0x216A8], [0x216EA], [0x59EC], [0x5A1B]]⟩,
  ⟨0x2F864, [
    [0x5A27], [0x59D8], [0x5A66], [0x36EE], [0x36FC], [0x5B08], [0x5B3E], [0x5B3E],
    [0x219C8], [0x5BC3], [0x5BD8], [0x5BE7], [0x5BF3], [0x21B18], [0x5BFF], [0x5C06],
    [0x5F53], [0x5C22], [0x3781], [0x5C60], [0x5C6E], [0x5CC0], [0x5C8D], [0x21DE4],
    [0x5D43], [0x21DE6], [0x5D6E], [0x5D6B], [0x5D7C], [0x5DE1], [0x5DE2], [0x382F],
    [0x5DFD], [0x5E28], [0x5E3D], [0x5E69], [0x3862], [0x22183], [0x387C], [0x5EB0],
    [0x5EB3], [0x5EB6], [0x5ECA], [0x2A392], [0x5EFE], [0x22331], [0x22331], [0x8201],
    [0x5F22], [0x5F22], [0x38C7], [0x232B8], [0x261DA], [0x5F62], [0x5F6B], [0x38E3],
    [0x5F9A], [0x5FCD], [0x5FD7], [0x5FF9], [0x6081], [0x393A], [0x391C], [0x6094],
    [0x226D4], [0x60C7], [0x6148], [0x614C], [0x614E], [0x614C], [0x617A], [0x618E],
    [0x61B2], [0x61A4], [0x61AF], [0x61DE], [0x61F2], [0x61F6], [0x6210], [0x621B],
    [0x625D], [0x62B1], [0x62D4], [0x6350], [0x22B0C], [0x633D], [0x62FC], [0x6368],
    [0x6383], [0x63E4], [0x22BF1], [0x6422], [0x63C5], [0x63A9], [0x3A2E], [0x6469],
    [0x647E], [0x649D], [0x6477], [0x3A6C]]⟩,
  ⟨0x2F8C8, [
    [0x654F], [0x656C], [0x2300A], [0x65E3], [0x66F8], [0x6649], [0x3B19], [0x6691],
    [0x3B08], [0x3AE4], [0x5192], [0x5195], [0x6700], [0x669C], [0x80AD], [0x43D9],
    [0x6717], [0x671B], [0x6721], [0x675E], [0x6753], [0x233C3], [0x3B49], [0x67FA],
    [0x6785], [0x6852], [0x6885], [0x2346D], [0x688E], [0x681F], [0x6914], [0x3B9D],
    [0x6942], [0x69A3], [0x69EA], [0x6AA8], [0x236A3], [0x6ADB], [0x3C18], [0x6B21],
    [0x238A7], [0x6B54], [0x3C4E], [0x6B72], [0x6B9F], [0x6BBA], [0x6BBB], [0x23A8D],
    [0x21D0B], [0x23AFA], [0x6C4E], [0x23CBC], [0x6CBF], [0x6CCD], [0x6C67], [0x6D16],
    [0x6D3E], [0x6D77], [0x6D41], [0x6D69], [0x6D78], [0x6D85], [0x23D1E], [0x6D34],
    [0x6E2F], [0x6E6E], [0x3D33], [0x6ECB], [0x6EC7], [0x23ED1], [0x6DF9], [0x6F6E],
    [0x23F5E], [0x23F8E], [0x6FC6], [0x7039], [0x701E], [0x701B], [0x3D96], [0x704A],
    [0x707D], [0x7077], [0x70AD], [0x20525], [0x7145], [0x24263], [0x719C], [0x243AB],
    [0x7228], [0x7235], [0x7250], [0x24608], [0x7280], [0x7295], [0x24735], [0x24814],
    [0x737A], [0x738B], [0x3EAC], [0x73A5]]⟩,
  ⟨0x2F92C, [
    [0x3EB8], [0x3EB8], [0x7447], [0x745C], [0x7471], [0x7485], [0x74CA], [0x3F1B],
    [0x7524], [0x24C36], [0x753E], [0x24C92], [0x7570], [0x2219F], [0x7610], [0x24FA1],
    [0x24FB8], [0x25044], [0x3FFC], [0x4008], [0x76F4], [0x250F3], [0x250F2], [0x25119],
    [0x25133], [0x771E], [0x771F], [0x771F], [0x774A], [0x4039], [0x778B], [0x4046],
    [0x4096], [0x2541D], [0x784E], [0x788C], [0x78CC], [0x40E3], [0x25626], [0x7956],
    [0x2569A], [0x256C5], [0x798F], [0x79EB], [0x412F], [0x7A40], [0x7A4A], [0x7A4F],
    [0x2597C], [0x25AA7], [0x25AA7], [0x7AEE], [0x4202], [0x25BAB], [0x7BC6], [0x7BC9],
    [0x4227], [0x25C80], [0x7CD2], [0x42A0], [0x7CE8], [0x7CE3], [0x7D00], [0x25F86],
    [0x7D63], [0x4301], [0x7DC7], [0x7E02], [0x7E45], [0x4334], [0x26228], [0x26247],
    [0x4359], [0x262D9], [0x7F7A], [0x2633E], [0x7F95], [0x7FFA], [0x8005], [0x264DA],
    [0x26523], [0x8060], [0x265A8], [0x8070], [0x2335F], [0x43D5], [0x80B2], [0x8103],
    [0x440B], [0x813E], [0x5AB5], [0x267A7], [0x267B5], [0x23393], [0x2339C], [0x8201],
    [0x8204], [0x8F9E], [0x446B], [0x8291]]⟩,
  ⟨0x2F990, [
    [0x828B], [0x829D], [0x52B3], [0x82B1], [0x82B3], [0x82BD], [0x82E6], [0x26B3C],
    [0x82E5], [0x831D], [0x8363], [0x83AD], [0x8323], [0x83BD], [0x83E7], [0x8457],
    [0x8353], [0x83CA], [0x83CC], [0x83DC], [0x26C36], [0x26D6B], [0x26CD5], [0x452B],
    [0x84F1], [0x84F3], [0x8516], [0x273CA], [0x8564], [0x26F2C], [0x455D], [0x4561],
    [0x26FB1], [0x270D2], [0x456B], [0x8650], [0x865C], [0x8667], [0x8669], [0x86A9],
    [0x8688], [0x870E], [0x86E2], [0x8779], [0x8728], [0x876B], [0x8786], [0x45D7],
    [0x87E1], [0x8801], [0x45F9], [0x8860], [0x8863], [0x27667], [0x88D7], [0x88DE],
    [0x4635], [0x88FA], [0x34BB], [0x278AE], [0x27966], [0x46BE], [0x46C7], [0x8AA0],
    [0x8AED], [0x8B8A], [0x8C55], [0x27CA8], [0x8CAB], [0x8CC1], [0x8D1B], [0x8D77],
    [0x27F2F], [0x20804], [0x8DCB], [0x8DBC], [0x8DF0], [0x208DE], [0x8ED4], [0x8F38],
    [0x285D2], [0x285ED], [0x9094], [0x90F1], [0x9111], [0x2872E], [0x911B], [0x9238],
    [0x92D7], [0x92D8], [0x927C], [0x93F9], [0x9415], [0x28BFA], [0x958B], [0x4995],
    [0x95B7], [0x28D77], [0x49E6], [0x96C3]]⟩,
  ⟨0x2F9F4, [
    [0x5DB2], [0x9723], [0x29145], [0x2921A], [0x4A6E], [0x4A76], [0x97E0], [0x2940A],
    [0x4AB2], [0x29496], [0x980B], [0x980B], [0x9829], [0x295B6], [0x98E2], [0x4B33],
    [0x9929], [0x99A7], [0x99C2], [0x99FE], [0x4BCE], [0x29B30], [0x9B12], [0x9C40],
    [0x9CFD], [0x4CCE], [0x4CED], [0x9D67], [0x2A0CE], [0x4CF8], [0x2A105], [0x2A20E],
    [0x2A291], [0x9EBB], [0x4D56], [0x9EF9], [0x9EFE], [0x9F05], [0x9F0F], [0x9F16],
    [0x9F3B], [0x2A600]]⟩
]

end CodeShelf.Text.Normal
