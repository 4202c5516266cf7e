import RemoteDriver.Proofs.Cursor.Step
import RemoteDriver.Proofs.Draining.Calls

/-!
# Draining cursors

A cursor is called for the next document.  A part of the result set without a token, or a failure,
is the last thing that a call exchanges, and from then on the cursor hands out what it has and asks
for nothing more (`Cursor.wired`).
-/

namespace RemoteDriver

open Bson (Document)

namespace Cursor

/-- What ends a cursor, and how it ends. -/
inductive Finishes (codec : Codec) (e : Exchange) : Except Halt Unit → Prop
  /-- A part without a token: nothing is left but what has been fetched. -/
  | last (seed : CursorSeed) (came : e.part codec = .ok seed) (tokenless : seed.cursorId = none) :
      Finishes codec e (.ok ())
  /-- A failure. -/
  | failure (err : Error) (came : e.part codec = .error (.failed err)) :
      Finishes codec e (.error (.failed err))

variable {c c' : Cursor} {limits : Limits} {w w' : World}

/-- A cursor at its end hands out what it has and nothing more. -/
theorem tryNext_spent (ended : c.state.isTerminal = true) (limits : Limits) (w : World) :
    (c.tryNext limits w).1.map (fun _ => ()) = .ok ()
      ∧ (c.tryNext limits w).2.1.state.isTerminal = true ∧ (c.tryNext limits w).2.2 = w := by
  rcases front : c.buffer with _ | ⟨d, rest⟩
  · rw [tryNext_ended front ended]
    exact ⟨rfl, ended, rfl⟩
  · rw [tryNext_handed front]
    exact ⟨rfl, ended, rfl⟩

/-- An exchange that ends a cursor leaves it at its end. -/
theorem Finishes.isTerminal {e : Exchange} {last : Except Halt Unit}
    (ends : Finishes c.connection.codec e last) : (c.told e).state.isTerminal = true := by
  cases ends with
  | last seed came tokenless =>
    rw [told_of_part came, continued, tokenless]
    rfl
  | failure err came =>
    rw [told_of_failed came]
    rfl

/-- It tells how the cursor ends. -/
theorem Finishes.last_eq {codec : Codec} {e : Exchange} {last : Except Halt Unit}
    (ends : Finishes codec e last) : (e.part codec).map (fun _ => ()) = last := by
  cases ends with
  | last seed came => rw [came]; rfl
  | failure err came => rw [came]; rfl

/-- After an exchange that ends a cursor nothing is sent, and the call comes to what it tells. -/
theorem tryNext_sends (c : Cursor) (limits : Limits) (w : World) :
    ∃ es, World.Sends (some c.serial) (fun _ => limits.deadline) w es (c.tryNext limits w).2.2
      ∧ ∀ before e after last, es = before ++ e :: after → Finishes c.connection.codec e last →
        after = [] ∧ (c.tryNext limits w).2.1.state.isTerminal = true
          ∧ (c.tryNext limits w).1.map (fun _ => ()) = last := by
  fun_induction tryNext c limits w with
  | case1 c w d rest front => exact ⟨[], .nil _ _ _, by simp⟩
  | case2 c w empty ended => exact ⟨[], .nil _ _ _, by simp⟩
  | case3 c w empty isOpen b c' w' ha ih =>
    obtain ⟨fs, sends', told⟩ := ih
    cases ha ▸ c.advanced limits w with
    | spent ended result => exact absurd ended isOpen
    | tokenless _ held result =>
      cases result
      exact ⟨fs, sends', told⟩
    | refused token err _ held refuses result => cases result
    | sent token e w₁ open_ held carries sends result =>
      obtain ⟨connection, _, serial⟩ := (Step.ask token w e open_ held carries).same
      simp only [Prod.mk.injEq] at result
      obtain ⟨brought, rfl, rfl⟩ := result
      rw [serial] at sends'
      refine ⟨e :: fs, sends.trans sends', fun before e' after last split ends => ?_⟩
      -- the exchange that ends the cursor is the one just made, or one of the rest
      rcases before with _ | ⟨_, before⟩
      · obtain ⟨rfl, rfl⟩ := List.cons.inj split
        obtain ⟨fine, past, same⟩ := tryNext_spent ends.isTerminal limits w'
        rw [same] at sends'
        refine ⟨sends'.eq_nil, past, fine.trans ?_⟩
        rw [← ends.last_eq]
        rcases part : e.part c.connection.codec with h | seed
        · rw [part] at brought
          cases brought
        · rfl
      · obtain ⟨rfl, later⟩ := List.cons.inj split
        exact told before e' after last later (connection ▸ ends)
  | case4 c w empty isOpen h c' w' ha =>
    cases ha ▸ c.advanced limits w with
    | spent ended result => exact absurd ended isOpen
    | tokenless _ held result => cases result
    | refused token err _ held refuses result =>
      cases result
      exact ⟨[], .nil _ _ _, by simp⟩
    | sent token e w₁ open_ held carries sends result =>
      simp only [Prod.mk.injEq] at result
      obtain ⟨brought, rfl, rfl⟩ := result
      refine ⟨[e], sends, fun before e' after last split ends => ?_⟩
      obtain ⟨rfl, rfl, rfl⟩ : before = [] ∧ e' = e ∧ after = [] := by
        rcases before with _ | ⟨_, _ | _⟩ <;> simp_all
      refine ⟨rfl, ends.isTerminal, ?_⟩
      rw [← ends.last_eq]
      rcases part : e'.part c.connection.codec with h' | seed <;> rw [part] at brought <;>
        cases brought
      rfl

/-- The exchange that ends a cursor is the last one of the call that it belongs to. -/
theorem wired (limits : Limits) (connection : Connection) (serial : Nat) :
    Wired tryNext limits (some serial) (fun _ => limits.deadline)
      (fun c => c.connection = connection ∧ c.serial = serial) (fun c => c.state.isTerminal = true)
      (Finishes connection.codec) where
  stays c w own := by
    obtain ⟨es, _, path⟩ := c.tryNext_path limits w
    exact ⟨path.same.1.trans own.1, path.same.2.2.trans own.2⟩
  sends c w own := by
    obtain ⟨rfl, rfl⟩ := own
    exact c.tryNext_sends limits w
  still c w _ ended := tryNext_spent ended limits w

/-- Collecting brings what the calls hand out, or the error of the last one, if it has one. -/
theorem collect_of_exhausts {ds : List Document} {last : Except Halt Unit}
    (h : Exhausts tryNext limits c w ds last c' w') :
    c.collect limits w = (last.map fun _ => ds, c', w') := by
  induction ds generalizing c w with
  | nil =>
    rw [c.collect_round.unrolls, unrolled, exhausts_nil_iff.mp h]
    rcases last with e | u <;> rfl
  | cons d ds ih =>
    obtain ⟨c₁, w₁, called, rest⟩ := exhausts_cons_iff.mp h
    rw [c.collect_round.unrolls, unrolled, called]
    dsimp only [collectTurn]
    rw [ih rest]
    rcases last with e | u <;> rfl

end Cursor

end RemoteDriver
