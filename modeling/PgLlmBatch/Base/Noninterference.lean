import PgLlmBatch.Base.Program

/-! Noninterference of the parties that share one state: unwinding over runs of operations,
and what it takes of a program's single statements when the program binds its scope first. -/
namespace PgLlmBatch.Base.Noninterference

section
variable {σ Op Call Out Party View : Type}

structure System (σ Op Call Out Party View : Type) where
  step : σ → Op → Out × σ
  call : Op → Call
  owner : Call → Party
  view : Party → σ → View

def System.run (sys : System σ Op Call Out Party View) : σ → List Op → List (Op × Out) × σ
  | s, [] => ([],s)
  | s, o::os => ((o,(sys.step s o).1)::(sys.run (sys.step s o).2 os).1,(sys.run (sys.step s o).2 os).2)

structure System.Secure (sys : System σ Op Call Out Party View) : Prop where
  isolated : ∀ s o p, sys.owner (sys.call o) ≠ p → sys.view p (sys.step s o).2 = sys.view p s
  determined : ∀ s s' o o', sys.call o = sys.call o' →
    sys.view (sys.owner (sys.call o)) s = sys.view (sys.owner (sys.call o)) s' →
    (sys.step s o).1 = (sys.step s' o').1 ∧
      sys.view (sys.owner (sys.call o)) (sys.step s o).2 = sys.view (sys.owner (sys.call o)) (sys.step s' o').2

-- The party's own operations may differ in all but their calls.
theorem unwinding [DecidableEq Party] {sys : System σ Op Call Out Party View} (secure : sys.Secure) (p : Party)
    {s s' : σ} (same : sys.view p s = sys.view p s') (ops alone : List Op)
    (calls : alone.map sys.call = (ops.map sys.call).filter (fun c => sys.owner c = p)) :
    ((sys.run s ops).1.filter (fun x => sys.owner (sys.call x.1) = p)).map (fun x => (sys.call x.1,x.2)) =
        (sys.run s' alone).1.map (fun x => (sys.call x.1,x.2)) ∧
      sys.view p (sys.run s ops).2 = sys.view p (sys.run s' alone).2 := by
  induction ops generalizing s s' alone with
  | nil =>
    cases List.map_eq_nil_iff.mp calls
    exact ⟨rfl,same⟩
  | cons o os ih =>
    rw [List.map_cons] at calls
    by_cases own : sys.owner (sys.call o) = p
    · subst own
      rw [List.filter_cons_of_pos (by simp)] at calls
      obtain ⟨o',later,rfl,named,rest⟩ := List.map_eq_cons_iff.mp calls
      obtain ⟨returned,next⟩ := secure.determined s s' o o' named.symm same
      obtain ⟨outs,last⟩ := ih next later rest
      simp only [System.run,decide_true,List.filter_cons_of_pos,List.map_cons,outs,named,returned]
      exact ⟨trivial,last⟩
    · rw [List.filter_cons_of_neg (by simpa using own)] at calls
      have next := (secure.isolated s o p own).trans same
      obtain ⟨outs,last⟩ := ih next alone calls
      simp only [System.run,own,decide_false,Bool.false_eq_true,not_false_eq_true,List.filter_cons_of_neg]
      exact ⟨outs,last⟩

end

section
variable {S : Type} {Reply : S → Type} {E α β σ ρ : Type}

-- A program whose first statement binds; from then on it may also use. The flag says
-- whether it has bound yet.
inductive Confined (binds uses : S → Prop) : Bool → Program S Reply E α → Prop where
  | ret {b : Bool} (a : α) : Confined binds uses b (.ret a)
  | raise {b : Bool} (e : E) : Confined binds uses b (.raise e)
  | bind {b : Bool} {s : S} {next : Reply s → Program S Reply E α} (first : binds s)
      (rest : ∀ r, Confined binds uses true (next r)) : Confined binds uses b (.call s next)
  | use {s : S} {next : Reply s → Program S Reply E α} (first : uses s)
      (rest : ∀ r, Confined binds uses true (next r)) : Confined binds uses true (.call s next)

variable {binds uses : S → Prop}

theorem confinedThen {b : Bool} {p : Program S Reply E α} {f : α → Program S Reply E β}
    (h : Confined binds uses b p) (rest : ∀ c a, (b = true → c = true) → Confined binds uses c (f a)) :
    Confined binds uses b (p >>= f) := by
  induction h with
  | ret a => exact rest _ a id
  | raise e => exact .raise e
  | bind first next ih => exact .bind first (fun r => ih r (fun c a _ => rest c a (fun _ => by simp_all)))
  | use first next ih => exact .use first (fun r => ih r rest)

theorem confinedHandle {b : Bool} {p : Program S Reply E α} {f : E → Program S Reply E α}
    (h : Confined binds uses b p) (rest : ∀ c e, Confined binds uses c (f e)) :
    Confined binds uses b (p.handle f) := by
  induction h with
  | ret a => exact .ret a
  | raise e => exact rest _ e
  | bind first next ih => exact .bind first ih
  | use first next ih => exact .use first ih

theorem confinedOfExcept {b : Bool} {e : Except E α} : Confined binds uses b (Program.ofExcept e : Program S Reply E α) := by
  cases e with
  | ok a => exact .ret a
  | error x => exact .raise x

theorem confinedExcept {b : Bool} {e : Except E α} {f : α → Program S Reply E β}
    (rest : ∀ a, e = .ok a → Confined binds uses b (f a)) :
    Confined binds uses b ((Program.ofExcept e : Program S Reply E α) >>= f) := by
  cases e with
  | ok a => exact rest a rfl
  | error x => exact .raise x

theorem confinedBinding {b : Bool} {s : S} {f : Reply s → Program S Reply E β} (first : binds s)
    (rest : ∀ r, Confined binds uses true (f r)) :
    Confined binds uses b ((Program.ask s : Program S Reply E (Reply s)) >>= f) := .bind first rest

theorem confinedUsing {s : S} {f : Reply s → Program S Reply E β} (first : uses s)
    (rest : ∀ r, Confined binds uses true (f r)) :
    Confined binds uses true ((Program.ask s : Program S Reply E (Reply s)) >>= f) := .use first rest

def Agree (R : σ → σ → Prop) : Option (ρ × σ) → Option (ρ × σ) → Prop
  | none, none => True
  | some (r,s), some (r',s') => r = r' ∧ R s s'
  | _, _ => False

theorem agreeCases {R : σ → σ → Prop} {x y : Option (ρ × σ)} (h : Agree R x y) :
    (x = none ∧ y = none) ∨ ∃ r s s', x = some (r,s) ∧ y = some (r,s') ∧ R s s' := by
  cases x with
  | none => cases y with
    | none => exact .inl ⟨rfl,rfl⟩
    | some b => exact h.elim
  | some a => cases y with
    | none => exact h.elim
    | some b =>
      obtain ⟨r,s⟩ := a
      obtain ⟨r',s'⟩ := b
      obtain ⟨same,related⟩ := h
      exact .inr ⟨r,s,s',rfl,by rw [same],related⟩

theorem confinedAgree (answer : (s : S) → σ → Option (Reply s × σ)) (R : Bool → σ → σ → Prop)
    (weaken : ∀ s s', R true s s' → R false s s')
    (binding : ∀ s b st st', binds s → R b st st' → Agree (R true) (answer s st) (answer s st'))
    (using_ : ∀ s st st', uses s → R true st st' → Agree (R true) (answer s st) (answer s st'))
    {b : Bool} {p : Program S Reply E α} (h : Confined binds uses b p) {st st' : σ} (same : R b st st') :
    Agree (R false) (p.alone answer st) (p.alone answer st') := by
  have ends : ∀ c s s', R c s s' → R false s s' := by
    rintro (_ | _) s s' here
    · exact here
    · exact weaken s s' here
  induction h generalizing st st' with
  | ret a => exact ⟨rfl,ends _ _ _ same⟩
  | raise e => exact ⟨rfl,ends _ _ _ same⟩
  | @bind b s next first rest ih =>
    have agreed := binding s b st st' first same
    simp only [Program.alone]
    obtain ⟨one,two⟩ | ⟨r,mid,mid',one,two,related⟩ := agreeCases agreed
    · rw [one,two]
      trivial
    · rw [one,two]
      exact ih r related
  | @use s next first rest ih =>
    have agreed := using_ s st st' first same
    simp only [Program.alone]
    obtain ⟨one,two⟩ | ⟨r,mid,mid',one,two,related⟩ := agreeCases agreed
    · rw [one,two]
      trivial
    · rw [one,two]
      exact ih r related

theorem confinedKeeps (answer : (s : S) → σ → Option (Reply s × σ)) (Inv : Bool → σ → Prop)
    (weaken : ∀ s, Inv true s → Inv false s)
    (binding : ∀ s b st r st', binds s → Inv b st → answer s st = some (r,st') → Inv true st')
    (using_ : ∀ s st r st', uses s → Inv true st → answer s st = some (r,st') → Inv true st')
    {b : Bool} {p : Program S Reply E α} (h : Confined binds uses b p) {st st' : σ} {r : Except E α}
    (start : Inv b st) (done : p.alone answer st = some (r,st')) : Inv false st' := by
  have ends : ∀ c s, Inv c s → Inv false s := by
    rintro (_ | _) s here
    · exact here
    · exact weaken s here
  induction h generalizing st with
  | ret a =>
    cases Option.some.inj done
    exact ends _ _ start
  | raise e =>
    cases Option.some.inj done
    exact ends _ _ start
  | @bind b s next first rest ih =>
    simp only [Program.alone] at done
    cases one : answer s st with
    | none => simp [one] at done
    | some x =>
      rw [one] at done
      exact ih x.1 (binding s b st x.1 x.2 first start one) done
  | @use s next first rest ih =>
    simp only [Program.alone] at done
    cases one : answer s st with
    | none => simp [one] at done
    | some x =>
      rw [one] at done
      exact ih x.1 (using_ s st x.1 x.2 first start one) done

end
end PgLlmBatch.Base.Noninterference
