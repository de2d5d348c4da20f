import PgLlmBatch.Base.Pool

/-! Rely-guarantee reasoning for sessions of a pool. Each call is proved safe against any
steps that the other sessions' guarantee allows; the rule gives the invariant of every
reachable state, and what each finished call left on record. -/
namespace PgLlmBatch.Base.RelyGuarantee
open Function (update)
open Pool (Caller Engine Session State Step start step)

structure Contract (Shared : Type) where
  inv : Shared → Prop
  guarantee : (tx seq : Nat) → Shared → Shared → Prop

def Contract.Others {Shared : Type} (k : Contract Shared) (t : Nat) : Shared → Shared → Prop :=
  Relation.ReflTransGen (fun a b => k.inv b ∧ ∃ u seq, u ≠ t ∧ k.guarantee u seq a b)

section
variable {S : Type} {Reply : S → Type} {E α β Call Choice Shared Scratch : Type}
variable (engine : Engine S Reply Call Choice Shared Scratch) (k : Contract Shared) (c : Caller Call)

def Safe (post : Except E α → Shared → Scratch → Prop) : Program S Reply E α → Shared → Scratch → Prop
  | .ret a, sh, sc => post (.ok a) sh sc
  | .raise e, sh, sc => post (.error e) sh sc
  | .call s next, sh, sc => ∀ mid, k.Others c.tx sh mid → k.inv mid →
      ∀ choice reply out sc', engine.exec c s choice mid sc = some (reply,out,sc') →
        k.inv out ∧ k.guarantee c.tx c.seq mid out ∧ Safe post (next reply) out sc'

variable {engine k c}

theorem safeMono {post weaker : Except E α → Shared → Scratch → Prop} {p : Program S Reply E α} {sh : Shared}
    {sc : Scratch} (h : Safe engine k c post p sh sc) (imp : ∀ r sh sc, post r sh sc → weaker r sh sc) :
    Safe engine k c weaker p sh sc := by
  induction p generalizing sh sc with
  | ret a => exact imp _ _ _ h
  | raise e => exact imp _ _ _ h
  | call s next ih =>
    intro mid others kept choice reply out sc' done
    obtain ⟨inv,guarantee,rest⟩ := h mid others kept choice reply out sc' done
    exact ⟨inv,guarantee,ih reply rest⟩

theorem safeBind {post : Except E β → Shared → Scratch → Prop} {p : Program S Reply E α}
    {f : α → Program S Reply E β} {sh : Shared} {sc : Scratch}
    (h : Safe engine k c (fun r sh sc => match r with
      | .ok a => Safe engine k c post (f a) sh sc
      | .error e => post (.error e) sh sc) p sh sc) : Safe engine k c post (p >>= f) sh sc := by
  induction p generalizing sh sc with
  | ret a => exact h
  | raise e => exact h
  | call s next ih =>
    intro mid others kept choice reply out sc' done
    obtain ⟨inv,guarantee,rest⟩ := h mid others kept choice reply out sc' done
    exact ⟨inv,guarantee,ih reply rest⟩

theorem safeHandle {post : Except E α → Shared → Scratch → Prop} {p : Program S Reply E α}
    {handler : E → Program S Reply E α} {sh : Shared} {sc : Scratch}
    (h : Safe engine k c (fun r sh sc => match r with
      | .ok a => post (.ok a) sh sc
      | .error e => Safe engine k c post (handler e) sh sc) p sh sc) :
    Safe engine k c post (p.handle handler) sh sc := by
  induction p generalizing sh sc with
  | ret a => exact h
  | raise e => exact h
  | call s next ih =>
    intro mid others kept choice reply out sc' done
    obtain ⟨inv,guarantee,rest⟩ := h mid others kept choice reply out sc' done
    exact ⟨inv,guarantee,ih reply rest⟩

theorem safeOfExcept {post : Except E α → Shared → Scratch → Prop} {e : Except E α} {sh : Shared} {sc : Scratch}
    (h : post e sh sc) : Safe engine k c post (Program.ofExcept e) sh sc := by
  cases e with
  | ok a => exact h
  | error x => exact h

theorem safeLater {post : Except E α → Shared → Scratch → Prop} {p : Program S Reply E α} {sh mid : Shared}
    {sc : Scratch} (waits : p.result = none) (h : Safe engine k c post p sh sc) (others : k.Others c.tx sh mid) :
    Safe engine k c post p mid sc := by
  cases p with
  | ret a => cases waits
  | raise e => cases waits
  | call s next => exact fun far after => h far (others.trans after)

-- The answers to a session that runs alone, with the choices still to be made.
def answerAlone (engine : Engine S Reply Call Choice Shared Scratch) (c : Caller Call) (s : S) :
    Shared × Scratch × List Choice → Option (Reply s × Shared × Scratch × List Choice)
  | (_,_,[]) => none
  | (sh,sc,choice::rest) => (engine.exec c s choice sh sc).map (fun out => (out.1,out.2.1,out.2.2,rest))

theorem safeAlone {post : Except E α → Shared → Scratch → Prop} {p : Program S Reply E α} {sh : Shared}
    {sc : Scratch} {choices : List Choice} {r : Except E α} {last : Shared × Scratch × List Choice}
    (h : Safe engine k c post p sh sc) (inv : k.inv sh)
    (ran : p.alone (answerAlone engine c) (sh,sc,choices) = some (r,last)) :
    post r last.1 last.2.1 ∧ k.inv last.1 ∧ Relation.ReflTransGen (k.guarantee c.tx c.seq) sh last.1 := by
  induction p generalizing sh sc choices with
  | ret a =>
    cases ran
    exact ⟨h,inv,.refl⟩
  | raise e =>
    cases ran
    exact ⟨h,inv,.refl⟩
  | call s next ih =>
    cases choices with
    | nil => cases ran
    | cons choice rest =>
      cases done : engine.exec c s choice sh sc with
      | none => simp [Program.alone,answerAlone,done] at ran
      | some out =>
        simp only [Program.alone,answerAlone,done,Option.map_some] at ran
        obtain ⟨kept,made,next_⟩ := h sh .refl inv choice out.1 out.2.1 out.2.2 done
        obtain ⟨ended,good,more⟩ := ih out.1 next_ kept ran
        exact ⟨ended,good,.head made more⟩

-- What a proof has to give: `record` is what a finished call leaves for good, `unused` what
-- the server shows of a call that has not begun.
structure Sound (engine : Engine S Reply Call Choice Shared Scratch) (k : Contract Shared)
    (code : Call → Program S Reply E α) (record : Caller Call → Except E α → Shared → Prop)
    (unused : (tx seq : Nat) → Shared → Prop) : Prop where
  calls : ∀ (c : Caller Call) sh, k.inv sh → unused c.tx c.seq sh →
    Safe engine k c (fun r sh sc => sc = engine.fresh ∧ record c r sh) (code c.call) sh engine.fresh
  still : ∀ t seq sh, k.guarantee t seq sh sh
  committed : ∀ t seq sh, k.inv sh →
    k.inv (engine.commit t sh engine.fresh) ∧ k.guarantee t seq sh (engine.commit t sh engine.fresh)
  rolledBack : ∀ t seq sh sc, k.inv sh →
    k.inv (engine.rollback t sh sc) ∧ k.guarantee t seq sh (engine.rollback t sh sc)
  recorded : ∀ (c : Caller Call) r t seq sh sh', record c r sh → k.guarantee t seq sh sh' →
    ¬(t = c.tx ∧ seq = c.seq) → record c r sh'
  unusedKept : ∀ t seq u seq' sh sh', unused t seq sh → k.guarantee u seq' sh sh' →
    ¬(u = t ∧ seq' = seq) → unused t seq sh'

variable {code : Call → Program S Reply E α} {record : Caller Call → Except E α → Shared → Prop}
  {unused : (tx seq : Nat) → Shared → Prop}

structure SessionGood (engine : Engine S Reply Call Choice Shared Scratch) (k : Contract Shared)
    (record : Caller Call → Except E α → Shared → Prop) (unused : (tx seq : Nat) → Shared → Prop)
    (sh : Shared) (t : Nat) (s : Session S Reply E α Call Scratch) : Prop where
  idle : s.status = .active → s.current = none → s.scratch = engine.fresh ∧ unused t s.outcomes.length sh
  running : ∀ call p, s.status = .active → s.current = some (call,p) → p.result = none ∧
    Safe engine k ⟨t,s.outcomes.length,call⟩
      (fun r sh sc => sc = engine.fresh ∧ record ⟨t,s.outcomes.length,call⟩ r sh) p sh s.scratch
  recorded : ∀ seq call r, s.outcomes[seq]? = some (call,r) → record ⟨t,seq,call⟩ r sh
  later : ∀ seq, s.outcomes.length < seq → unused t seq sh

structure Good (engine : Engine S Reply Call Choice Shared Scratch) (k : Contract Shared)
    (record : Caller Call → Except E α → Shared → Prop) (unused : (tx seq : Nat) → Shared → Prop)
    (w : State S Reply E α Call Shared Scratch) : Prop where
  shared : k.inv w.shared
  sessions : ∀ t, SessionGood engine k record unused w.shared t (w.session t)

section
variable (sound : Sound engine k code record unused)
include sound

theorem bystander {s : Session S Reply E α Call Scratch} {sh out : Shared} {t u seq : Nat} (other : u ≠ t)
    (inv : k.inv out) (made : k.guarantee t seq sh out) (h : SessionGood engine k record unused sh u s) :
    SessionGood engine k record unused out u s where
  idle active none_ := by
    obtain ⟨fresh,free⟩ := h.idle active none_
    exact ⟨fresh,sound.unusedKept _ _ _ _ _ _ free made (fun same => other same.1.symm)⟩
  running call p active waiting := by
    obtain ⟨waits,safe⟩ := h.running call p active waiting
    exact ⟨waits,safeLater waits safe (.single ⟨inv,t,seq,other.symm,made⟩)⟩
  recorded seq' call r listed :=
    sound.recorded _ _ _ _ _ _ (h.recorded seq' call r listed) made (fun same => other same.1.symm)
  later seq' more := sound.unusedKept _ _ _ _ _ _ (h.later seq' more) made (fun same => other same.1.symm)

theorem ownRecord {s : Session S Reply E α Call Scratch} {sh out : Shared} {t : Nat}
    (made : k.guarantee t s.outcomes.length sh out) (h : SessionGood engine k record unused sh t s) :
    (∀ seq call r, s.outcomes[seq]? = some (call,r) → record ⟨t,seq,call⟩ r out) ∧
      ∀ seq, s.outcomes.length < seq → unused t seq out := by
  constructor
  · intro seq call r listed
    refine sound.recorded _ _ _ _ _ _ (h.recorded seq call r listed) made ?_
    rintro ⟨-,here⟩
    obtain ⟨bound,-⟩ := List.getElem?_eq_some_iff.mp listed
    exact absurd bound (by rw [here]; exact Nat.lt_irrefl _)
  · intro seq more
    refine sound.unusedKept _ _ _ _ _ _ (h.later seq more) made ?_
    rintro ⟨-,here⟩
    exact absurd more (by rw [here]; exact Nat.lt_irrefl _)

theorem settled {s : Session S Reply E α Call Scratch} {sh out : Shared} {t : Nat} {call : Call}
    {p : Program S Reply E α} {sc : Scratch}
    (made : k.guarantee t s.outcomes.length sh out) (h : SessionGood engine k record unused sh t s)
    (safe : Safe engine k ⟨t,s.outcomes.length,call⟩
      (fun r sh sc => sc = engine.fresh ∧ record ⟨t,s.outcomes.length,call⟩ r sh) p out sc) :
    SessionGood engine k record unused out t ({s with scratch := sc}.settle call p) := by
  obtain ⟨recorded,later⟩ := ownRecord sound made h
  cases result : p.result with
  | none =>
    rw [Pool.settleWaiting _ _ result]
    refine ⟨fun _ none_ => (by cases none_),?_,recorded,later⟩
    rintro call' p' - waiting
    cases Option.some.inj waiting
    exact ⟨result,safe⟩
  | some r =>
    have post : sc = engine.fresh ∧ record ⟨t,s.outcomes.length,call⟩ r out := by
      cases p with
      | ret a => cases Option.some.inj result; exact safe
      | raise e => cases Option.some.inj result; exact safe
      | call st next => cases result
    rw [Pool.settleDone _ _ result]
    refine ⟨?_,fun _ _ _ waiting => (by cases waiting),?_,?_⟩
    · rintro - -
      rw [List.length_append,List.length_singleton]
      exact ⟨post.1,later _ (Nat.lt_succ_self _)⟩
    · intro seq call' r' listed
      rw [List.getElem?_append] at listed
      split at listed
      · exact recorded seq call' r' listed
      · rename_i past
        have last : seq = s.outcomes.length := by
          by_contra apart
          have beyond : 1 ≤ seq - s.outcomes.length := 
            Nat.sub_pos_of_lt (Nat.lt_of_le_of_ne (Nat.not_lt.mp past) (Ne.symm apart))
          rw [List.getElem?_eq_none (by simpa using beyond)] at listed
          cases listed
        subst last
        rw [Nat.sub_self] at listed
        cases Option.some.inj listed
        exact post.2
    · intro seq more
      rw [List.length_append,List.length_singleton] at more
      exact later seq (Nat.lt_of_succ_lt more)

theorem goodUpdate {w : State S Reply E α Call Shared Scratch} {t seq : Nat} {out : Shared}
    {s : Session S Reply E α Call Scratch} (h : Good engine k record unused w) (inv : k.inv out)
    (made : k.guarantee t seq w.shared out) (own : SessionGood engine k record unused out t s) :
    Good engine k record unused ⟨out,update w.session t s⟩ := by
  refine ⟨inv,fun u => ?_⟩
  by_cases same : u = t
  · subst same
    simpa only [Function.update_self] using own
  · simpa only [Function.update_of_ne same] using bystander sound same inv made (h.sessions u)

theorem closed {s : Session S Reply E α Call Scratch} {sh out : Shared} {t : Nat} {ended : Pool.Status}
    (over_ : ended ≠ .active) (made : k.guarantee t s.outcomes.length sh out)
    (h : SessionGood engine k record unused sh t s) :
    SessionGood engine k record unused out t {s with scratch := engine.fresh, current := none, status := ended} := by
  obtain ⟨recorded,later⟩ := ownRecord sound made h
  exact ⟨fun active => absurd active over_,fun _ _ active => absurd active over_,recorded,later⟩

theorem stepGood {w w' : State S Reply E α Call Shared Scratch} {e : Pool.Event Call Choice}
    (h : Good engine k record unused w) (next : step engine code w e = some w') :
    Good engine k record unused w' := by
  cases Pool.stepSource next with
  | invoke t call active none_ =>
    obtain ⟨fresh,free⟩ := (h.sessions t).idle active none_
    have safe := sound.calls ⟨t,(w.session t).outcomes.length,call⟩ w.shared h.shared free
    have made := sound.still t (w.session t).outcomes.length w.shared
    have own := settled sound made (h.sessions t) safe
    rw [← fresh] at own
    exact goodUpdate sound h h.shared made own
  | advance t choice call stmt next reply shared scratch active waiting done =>
    obtain ⟨-,safe⟩ := (h.sessions t).running call _ active waiting
    obtain ⟨inv,made,rest⟩ := safe w.shared .refl h.shared choice reply shared scratch done
    exact goodUpdate sound h inv made (settled sound made (h.sessions t) rest)
  | commit t active none_ =>
    obtain ⟨fresh,-⟩ := (h.sessions t).idle active none_
    obtain ⟨inv,made⟩ := sound.committed t (w.session t).outcomes.length w.shared h.shared
    rw [fresh]
    have own := closed sound (show Pool.Status.committed ≠ .active by decide) made (h.sessions t)
    rw [← none_] at own
    exact goodUpdate sound h inv made own
  | rollback t active =>
    obtain ⟨inv,made⟩ := sound.rolledBack t (w.session t).outcomes.length w.shared (w.session t).scratch h.shared
    exact goodUpdate sound h inv made (closed sound (by decide) made (h.sessions t))

theorem reachableGood {sh : Shared} (inv : k.inv sh) (free : ∀ t seq, unused t seq sh) {es : List (Pool.Event Call Choice)}
    {w : State S Reply E α Call Shared Scratch} (ran : Runs.run (step engine code) (start engine sh) es = some w) :
    Good engine k record unused w := by
  refine Runs.runInvariant (fun s e s' good next => stepGood sound good next) ⟨inv,fun t => ?_⟩ ran
  refine ⟨fun _ _ => ⟨rfl,free t 0⟩,fun _ _ _ waiting => (by cases waiting),fun _ _ _ listed => ?_,fun seq _ => free t seq⟩
  simp [start] at listed

end

end
end PgLlmBatch.Base.RelyGuarantee
