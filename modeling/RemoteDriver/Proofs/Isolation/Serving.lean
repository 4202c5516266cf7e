import RemoteDriver.Proofs.Isolation.Others

/-!
# Serving commands in sessions beside each other

What is known of services carries over to the serving of commands, where a close signal may have to
be waited for: two sessions whose worlds look the same to a handle serve a command to it alike
(`serve_alike`), and a session that serves another handle spares it (`serve_spares`).
-/

namespace RemoteDriver

open World (Spares)

/-- A verdict without the number of what was opened. -/
def Verdict.unnumbered : Verdict → Verdict
  | result r => result r.unnumbered
  | v => v

/-- How a step ends is told without a look at the number of what it opened. -/
theorem Verdict.ofExcept_unnumbered (r : Except Halt Result) :
    ofExcept (r.map Result.unnumbered) = (ofExcept r).unnumbered := by
  rcases r with (_ | _) | _ <;> rfl

namespace Session

/-! ## Waiting for a close signal -/

section joined

variable {limits : Limits} {w : World} {r : Except Halt Result}

/-- Waiting for a close signal asks nothing of the remote side. -/
theorem joined_remote (limits : Limits) (w : World) (r : Except Halt Result) :
    (joined limits w r).2.remote = w.remote := by
  rcases joined_cases limits w r with same | ⟨subscription, time, _, same | same | same⟩
  · rw [same]
  · rw [same, (w.still_fire subscription).remote]
  · rw [same]
    exact (w.still_fire subscription).remote
  · rw [same]

/-- A step that waits for the close signal of a handle is nothing to another handle. -/
theorem joined_spares {n m : Nat} (ne : m ≠ n)
    (mine : ∀ subscription time, limits.closing = some (subscription, time) → subscription = m) :
    w.Spares n (joined limits w r).2 := by
  rcases joined_cases limits w r with same | ⟨subscription, time, closing, changed⟩
  · rw [same]
    exact .refl n w
  · have other : subscription ≠ n := mine subscription time closing ▸ ne
    have fired := w.spares_fire other
    rcases changed with same | same | same
    · rw [same]
      exact fired
    · rw [same]
      refine fired.trans (World.spares_wait n ?_)
      rw [(w.still_fire subscription).now]
      exact Nat.le_max_left _ _
    · rw [same]
      exact World.spares_wait n (Nat.le_max_left _ _)

/-- A step that waits for the close signal of a handle waits alike in worlds beside each other. -/
theorem joined_alike {a : Vantage} {v : World} (beside : a.Beside w v)
    (mine : ∀ subscription time, limits.closing = some (subscription, time) →
      subscription = a.number) (r : Except Halt Result) :
    (joined (limits.later a.span) w r).1 = (joined limits v r).1
      ∧ a.Beside (joined (limits.later a.span) w r).2 (joined limits v r).2 := by
  rcases limits with ⟨deadline, _ | ⟨subscription, time⟩⟩
  · rcases r with (e | _) | r <;> exact ⟨rfl, beside⟩
  · cases mine subscription time rfl
    have late (moment : Nat) : max w.now (moment + a.span) = max v.now moment + a.span := by
      rw [beside.now, Nat.add_max_add_right]
    have shift : time + a.span ≤ deadline + a.span ↔ time ≤ deadline := Nat.add_le_add_iff_right
    unfold joined Limits.later
    by_cases inTime : time ≤ deadline
    · rcases r with (e | _) | r <;> dsimp only [Option.map_some, Prod.map, id] <;>
        rw [if_pos inTime, if_pos (shift.mpr inTime)]
      · exact ⟨rfl, beside.fire.wait (late time)⟩
      · exact ⟨rfl, beside.fire⟩
      · exact ⟨rfl, beside.fire.wait (late time)⟩
    · rcases r with (e | _) | r <;> dsimp only [Option.map_some, Prod.map, id] <;>
        rw [if_neg inTime, if_neg fun h => inTime (shift.mp h)]
      · exact ⟨rfl, beside.wait (late deadline)⟩
      · exact ⟨rfl, beside⟩
      · exact ⟨rfl, beside.wait (late deadline)⟩

/-- It does not matter for it what the result is. -/
theorem joined_map (limits : Limits) (w : World) (r : Except Halt Result) (f : Result → Result) :
    joined limits w (r.map f) = ((joined limits w r).1.map f, (joined limits w r).2) := by
  unfold joined
  rcases r with (e | _) | r <;> dsimp only [Except.map]
  · split
    · split <;> rfl
    · rfl
  · split
    · split <;> rfl
    · rfl

end joined

/-! ## Serving commands -/

variable {s s' : Session} {st : Step} {h : Handle} {n m : Nat}

/-- The close signal that a step waits for is the one of its handle. -/
theorem closing_of_limits (st : Step) (w : World) (mine : h.number? = some m)
    (subscription time : Nat)
    (closing : (limits st h w).closing = some (subscription, time)) : subscription = m := by
  unfold limits Step.closing at closing
  dsimp only at closing
  split at closing
  · cases closing
    exact Option.some.inj mine
  · cases closing

/-- A step that begins later has later limits. -/
theorem limits_later {w v : World} {span : Nat} (later : w.now = v.now + span) (st : Step)
    (h : Handle) : limits st h w = (limits st h v).later span := by
  have deadline : st.deadline w.now = st.deadline v.now + span := by
    unfold Step.deadline
    rw [later]
    split <;> omega
  have closing : st.closing h w.now
      = (st.closing h v.now).map (Prod.map id (· + span)) := by
    unfold Step.closing
    rw [later]
    split
    · rw [Nat.add_right_comm]
      rfl
    · rfl
  unfold limits Limits.later
  rw [deadline, closing]

/-- What a handle with a state of its own does not know is served without looking at the session. -/
theorem serve_of_unknown (mine : h.number? = some m) (unknown : h.service? st.command = none) :
    ∃ v became, v.handle? = none ∧ (became = some h ∨ became = none)
      ∧ ∀ s : Session, s.serve st h = (v, became, s.world) := by
  by_cases forget : st.command = .forget
  · refine ⟨.result .done, none, rfl, .inr rfl, fun s => ?_⟩
    unfold serve
    rw [forget]
  by_cases compare : ∃ other, st.command = .compare other
  · obtain ⟨other, compare⟩ := compare
    have none_of (h' : Handle) : h.isSame? h' = none := by
      cases h <;> first | rfl | cases mine
    refine ⟨.result (.comparison none), some h, rfl, .inl rfl, fun s => ?_⟩
    have incomparable : (s.handle? other).bind h.isSame? = none := by
      rcases s.handle? other with _ | h'
      · rfl
      · exact none_of h'
    unfold serve
    rw [compare]
    dsimp only
    rw [incomparable]
  refine ⟨.notOffered, some h, rfl, .inl rfl, fun s => ?_⟩
  unfold serve
  split
  · next forget' => exact absurd forget' forget
  · next other compare' => exact absurd ⟨other, compare'⟩ compare
  · rw [unknown]

/-- What is concluded of a service is alike if the service is. -/
theorem conclude_alike {a : Vantage} {service : Service} (alike : a.AlikeUse service)
    {limits : Limits} (mine : ∀ subscription time, limits.closing = some (subscription, time) →
      subscription = a.number) {w v : World} (beside : a.Beside w v) :
    let out := conclude (limits.later a.span) (service (limits.later a.span) w)
    let out' := conclude limits (service limits v)
    out.1 = out'.1 ∧ out.2.1 = out'.2.1 ∧ a.Beside out.2.2 out'.2.2 := by
  obtain ⟨r, became, w', v', hw, hv, beside'⟩ := alike limits w v beside
  obtain ⟨same, after⟩ := joined_alike beside' mine r
  rw [hw, hv]
  exact ⟨congrArg Verdict.ofExcept same, rfl, after⟩

/-- The number of what was opened is left out of what is concluded. -/
theorem conclude_unnumbered (limits limits' : Limits) (service : Service) (w : World) :
    conclude limits (service.unnumbered limits' w)
      = ((conclude limits (service limits' w)).1.unnumbered,
        (conclude limits (service limits' w)).2) := by
  unfold conclude Service.unnumbered
  dsimp only
  rw [joined_map, Verdict.ofExcept_unnumbered]

/-- How two sessions serve a command to a handle alike. -/
structure ServeAlike (a : Vantage) (st : Step) (out out' : Verdict × Option Handle × World) :
    Prop where
  /-- The verdicts are the same but for the number of what is opened. -/
  unnumbered : out.1.unnumbered = out'.1.unnumbered
  /-- They are the same if nothing is opened. -/
  verdict : ¬ st.command.OpensHandles → out.1 = out'.1
  /-- The handle becomes the same. -/
  became : out.2.1 = out'.2.1
  /-- The worlds stay beside each other. -/
  beside : a.Beside out.2.2 out'.2.2

/-- Two sessions whose worlds look the same to a handle serve a command to it alike. -/
theorem serve_alike {a : Vantage} (st : Step) (mine : h.number? = some a.number)
    (beside : a.Beside s.world s'.world) :
    ServeAlike a st (s.serve st h) (s'.serve st h) := by
  rcases known : h.service? st.command with _ | service
  · obtain ⟨v, became, _, _, same⟩ := serve_of_unknown mine known
    rw [same s, same s']
    exact ⟨rfl, fun _ => rfl, rfl, beside⟩
  · rw [serve_of_service known, serve_of_service known, limits_later beside.now st h]
    have own := closing_of_limits st s'.world mine
    obtain ⟨unnumbered, became, beside'⟩ :=
      conclude_alike (Handle.unnumbered_alike mine known) own beside
    rw [conclude_unnumbered, conclude_unnumbered] at unnumbered became beside'
    refine ⟨unnumbered, fun plain => ?_, became, beside'⟩
    exact (conclude_alike (Handle.service_alike mine known plain) own beside).1

/-- A session that serves a command to a handle spares the other handles. -/
theorem serve_spares (mine : h.number? = some m) (ne : m ≠ n)
    (separates : s.world.remote.Separates) : s.world.Spares n (s.serve st h).2.2 := by
  rcases known : h.service? st.command with _ | service
  · obtain ⟨v, became, _, _, same⟩ := serve_of_unknown mine known
    rw [same s]
    exact .refl n s.world
  · rw [serve_of_service known]
    exact (Handle.service_spares mine known separates ne _).trans
      (joined_spares ne (closing_of_limits st s.world mine))

/-- What a handle brings has its number, if nothing is opened. -/
theorem number?_of_serve (mine : h.number? = some m) (own : ¬ st.command.OpensHandles)
    {h' : Handle} (brought : (s.serve st h).1.handle? = some h') : h'.number? = some m := by
  rcases known : h.service? st.command with _ | service
  · obtain ⟨v, became, plain, _, same⟩ := serve_of_unknown mine known
    rw [same s, plain] at brought
    cases brought
  · rw [serve_of_service known] at brought
    obtain ⟨r, told, brings⟩ := exists_of_handle?_conclude brought
    exact Handle.number?_of_brought mine known own told brings

/-- Whatever is served, the queues stay what they are. -/
theorem serve_queueOf (s : Session) (st : Step) (h : Handle) :
    (s.serve st h).2.2.remote.queueOf = s.world.remote.queueOf := by
  rcases s.serving st h with ⟨v, became, _, _, same⟩ | ⟨service, known, same⟩
  · rw [show s.serve st h = _ from same s.world]
  · rw [show s.serve st h = _ from same s.world]
    refine (congrArg Remote.queueOf (joined_remote _ _ _)).trans ?_
    exact Handle.service_queueOf known _ s.world

end Session

end RemoteDriver
