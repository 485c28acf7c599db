import CodeShelf.Transport

/-!
# A scripted transport

Answers the calls one after another from a list, whatever they ask, and keeps a log
of them.
-/

namespace CodeShelf

structure Script where
  replies : List Reply
  calls : List Call := []

namespace Script

def exhausted : Reply :=
  .error ⟨none, "script exhausted"⟩

def send (call : Call) (s : Script) : Script × Reply :=
  (⟨s.replies.tail, s.calls ++ [call]⟩, s.replies.head?.getD exhausted)

instance : Transport Script Empty where
  send call s := ((s.send call).1, .answered (s.send call).2)
  proceed hold _ := hold.elim

end Script

end CodeShelf
