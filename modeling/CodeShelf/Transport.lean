import CodeShelf.Service

/-!
# Transports

A transport carries calls to the service.  It answers a call at once or holds it
until something outside lets it go on; what it keeps of a held call is its own
business.
-/

namespace CodeShelf

inductive Progress (ω : Type) where
  | answered (reply : Reply)
  | held (hold : ω)
  deriving Repr

/-- A transport `τ` that keeps an `ω` of every call it holds: `send` hands a call over,
and `proceed` lets a held call go on. -/
class Transport (τ : Type) (ω : outParam Type) where
  send : Call → τ → τ × Progress ω
  proceed : ω → τ → τ × Progress ω

end CodeShelf
