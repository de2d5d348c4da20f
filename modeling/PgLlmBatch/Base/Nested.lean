import PgLlmBatch.Base.Loop

/-! Operations that call one another: what a running operation does next, with the operations
that wait for it on a stack, and the events of a run. Nothing bounds the loops of an operation or
the depth of the calls. -/
namespace PgLlmBatch.Base.Nested

inductive Activity (S : Type) (Reply : S → Type) (Op E V σ : Type) where
  | finish (out : Except E V)
  | internal (st : σ)
  | call (s : S) (resume : Reply s → σ)
  | dispatch (op : Op) (resume : Except E V → σ)

inductive Event (S : Type) (Reply : S → Type) (Call E V : Type) where
  | began (call : Call)
  | external (e : Loop.Event S Reply)
  | ended (out : Except E V)

structure Operations (S : Type) (Reply : S → Type) (Op Call E V σ : Type) where
  start : Call → σ
  next : σ → Activity S Reply Op E V σ

structure Config (S : Type) (Reply : S → Type) (Call E V σ : Type) where
  st : σ
  frames : List (Except E V → σ)
  log : List (Event S Reply Call E V)

variable {S : Type} {Reply : S → Type} {Op Call E V σ : Type}

inductive Step (receive : Op → Call) (ops : Operations S Reply Op Call E V σ) :
    Config S Reply Call E V σ → Config S Reply Call E V σ → Prop where
  | internal {st st' frames log} (here : ops.next st = .internal st') :
      Step receive ops ⟨st,frames,log⟩ ⟨st',frames,log⟩
  | call {st s resume frames log} (here : ops.next st = .call s resume) (reply : Reply s) :
      Step receive ops ⟨st,frames,log⟩ ⟨resume reply,frames,log ++ [.external ⟨s,reply⟩]⟩
  | dispatch {st op resume frames log} (here : ops.next st = .dispatch op resume) :
      Step receive ops ⟨st,frames,log⟩ ⟨ops.start (receive op),resume :: frames,log ++ [.began (receive op)]⟩
  | finish {st out resume frames log} (here : ops.next st = .finish out) :
      Step receive ops ⟨st,resume :: frames,log⟩ ⟨resume out,frames,log ++ [.ended out]⟩

def Reaches (receive : Op → Call) (ops : Operations S Reply Op Call E V σ) :
    Config S Reply Call E V σ → Config S Reply Call E V σ → Prop :=
  Relation.ReflTransGen (Step receive ops)

end PgLlmBatch.Base.Nested
