import RemoteDriver.Proofs.Transcript
import RemoteDriver.Session.Basic

/-!
# Lives of handles

A handle that changes is asked for one thing after the other, each time under limits of its own and
in a world of its own, so that anything may happen in between: other handles are used, the client is
closed, a close signal fires.  `life` lists what the calls came to, and `lived` is what became of
the handle.  What a single call keeps, a life keeps (`life_keeps`, `lived_keeps`).
-/

namespace RemoteDriver

/-- A demand together with the limits under which it is made and the world that it finds. -/
structure Occasion (δ : Type) where
  /-- What is asked. -/
  demand : δ
  /-- Under which limits. -/
  limits : Limits
  /-- In which world. -/
  world : World

/-- What a call on a handle came to. -/
structure Entry (σ : Type) where
  /-- The requests that were posted meanwhile, with what came back for them. -/
  exchanges : List Exchange
  /-- The result. -/
  result : Except Halt Result
  /-- What became of the handle. -/
  after : σ
  /-- The world that was left. -/
  left : World

variable {σ δ : Type}

/-- None of the demands asks for a handle to be closed, in whatever state it is. -/
def NeverCloses (closes : σ → δ → Prop) (os : List (Occasion δ)) : Prop :=
  ∀ o ∈ os, ∀ c, ¬ closes c o.demand

/-- A call has run to its end. -/
def Entry.Completed (r : Entry σ) : Prop := r.result ≠ .error .abandoned

instance (r : Entry σ) : Decidable r.Completed :=
  match given : r.result with
  | .error .abandoned => isFalse fun completed => completed given
  | .error (.failed _) => isTrue fun same => nomatch given.symm.trans same
  | .ok _ => isTrue fun same => nomatch given.symm.trans same

/-- A call has failed. -/
def Entry.Failed (r : Entry σ) : Prop := ∃ err, r.result = .error (.failed err)

instance (r : Entry σ) : Decidable r.Failed :=
  match given : r.result with
  | .error (.failed err) => isTrue ⟨err, given⟩
  | .error .abandoned => isFalse fun ⟨_, same⟩ => nomatch given.symm.trans same
  | .ok _ => isFalse fun ⟨_, same⟩ => nomatch given.symm.trans same

/-- A result of a call is a failure just if it is one of what the call does. -/
theorem failed_of_map {α β : Type} {f : α → β} {r : Except Halt α} {err : Error}
    (given : r.map f = .error (.failed err)) : r = .error (.failed err) := by
  cases r <;> cases given
  rfl

/-- It is given up just if that is. -/
theorem abandoned_of_map {α β : Type} {f : α → β} {r : Except Halt α}
    (given : r.map f = .error .abandoned) : r = .error .abandoned := by
  cases r <;> cases given
  rfl

/-- All exchanges of calls, in order. -/
def exchanged (rows : List (Entry σ)) : List Exchange := rows.flatMap (·.exchanges)

/-- The exchanges of a life that goes on come one after the other. -/
theorem exchanged_append (rows more : List (Entry σ)) :
    exchanged (rows ++ more) = exchanged rows ++ exchanged more := List.flatMap_append

/-- The exchanges of one call are those of the life of that call. -/
theorem exchanged_singleton (r : Entry σ) : exchanged [r] = r.exchanges :=
  List.append_nil r.exchanges

/-- The exchanges of the first call come first. -/
theorem exchanged_cons (r : Entry σ) (rows : List (Entry σ)) :
    exchanged (r :: rows) = r.exchanges ++ exchanged rows := List.flatMap_cons

/-- The exchanges that told the remote side that a handle is closed. -/
def farewells (es : List Exchange) : List Exchange :=
  es.filter fun e => e.request.envelope.operation = "close"

/-- The farewells of a life that goes on come one after the other. -/
theorem farewells_append (es fs : List Exchange) :
    farewells (es ++ fs) = farewells es ++ farewells fs := List.filter_append ..

/-- Other operations go by another name. -/
theorem farewells_of_asks {es : List Exchange} {name : String} (other : name ≠ "close")
    (asks : ∀ e ∈ es, e.request.envelope.operation = name) : farewells es = [] := by
  refine List.filter_eq_nil_iff.mpr fun e member => ?_
  rw [asks e member]
  exact fun same => other (of_decide_eq_true same)

section life

variable (entry : σ → Occasion δ → Entry σ)

/-- What calls one after the other come to. -/
def life (c : σ) : List (Occasion δ) → List (Entry σ)
  | [] => []
  | o :: rest => entry c o :: life (entry c o).after rest

/-- What becomes of a handle by calls one after the other. -/
def lived (c : σ) : List (Occasion δ) → σ
  | [] => c
  | o :: rest => lived (entry c o).after rest

variable {entry}

/-- What holds at first and is kept by every completed call holds after any number of them. -/
theorem life_keeps {P : List (Entry σ) → σ → Prop} {os : List (Occasion δ)}
    (step : ∀ rows c, ∀ o ∈ os, P rows c → (entry c o).Completed →
      P (rows ++ [entry c o]) (entry c o).after)
    (rows : List (Entry σ)) {c : σ} (start : P rows c)
    (completed : ∀ r ∈ life entry c os, r.Completed) :
    P (rows ++ life entry c os) (lived entry c os) := by
  induction os generalizing rows c with
  | nil =>
    rw [life, List.append_nil]
    exact start
  | cons o os ih =>
    have first := completed _ List.mem_cons_self
    have next := step rows c o List.mem_cons_self start first
    have rest := ih (fun rows c o member => step rows c o (List.mem_cons_of_mem _ member))
      (rows ++ [entry c o]) next fun r member => completed r (List.mem_cons_of_mem _ member)
    rw [List.append_assoc] at rest
    exact rest

/-- The same of what every call keeps, whether or not it is given up, and of the handle alone. -/
theorem lived_keeps {P : σ → Prop} {os : List (Occasion δ)}
    (step : ∀ c, ∀ o ∈ os, P c → P (entry c o).after) {c : σ} (start : P c) :
    P (lived entry c os) := by
  induction os generalizing c with
  | nil => exact start
  | cons o os ih =>
    have next := step c o List.mem_cons_self start
    exact ih (fun c o member => step c o (List.mem_cons_of_mem _ member)) next

/-- What holds of the exchanges of every call, as long as the handle is as it is to be, holds of
all of them. -/
theorem exchanged_life {P : σ → Prop} {Q : Exchange → Prop} {os : List (Occasion δ)}
    (step : ∀ c, ∀ o ∈ os, P c → (∀ e ∈ (entry c o).exchanges, Q e) ∧ P (entry c o).after) {c : σ}
    (start : P c) : ∀ e ∈ exchanged (life entry c os), Q e := by
  induction os generalizing c with
  | nil => simp [life, exchanged]
  | cons o os ih =>
    obtain ⟨first, next⟩ := step c o List.mem_cons_self start
    have rest := ih (fun c o member => step c o (List.mem_cons_of_mem _ member)) next
    intro e member
    rw [life, exchanged_cons] at member
    rcases List.mem_append.mp member with member | member
    · exact first e member
    · exact rest e member

/-- Where every call is silent and keeps being so, nothing is posted. -/
theorem silent_life {P : σ → Prop} {os : List (Occasion δ)}
    (step : ∀ c, ∀ o ∈ os, P c → (entry c o).exchanges = [] ∧ P (entry c o).after) {c : σ}
    (start : P c) : exchanged (life entry c os) = [] := by
  have none := exchanged_life (P := P) (Q := fun _ => False) (fun c o member holds => by
    obtain ⟨silent, next⟩ := step c o member holds
    rw [silent]
    exact ⟨by simp, next⟩) start
  exact List.eq_nil_iff_forall_not_mem.mpr none

/-- Calls after calls go on from what became of the handle. -/
theorem lived_append (c : σ) (os more : List (Occasion δ)) :
    lived entry c (os ++ more) = lived entry (lived entry c os) more := by
  induction os generalizing c with
  | nil => rfl
  | cons o os ih => exact ih (entry c o).after

/-- A life goes on with what has become of the handle. -/
theorem life_append (c : σ) (os more : List (Occasion δ)) :
    life entry c (os ++ more) = life entry c os ++ life entry (lived entry c os) more := by
  induction os generalizing c with
  | nil => rfl
  | cons o os ih => exact congrArg (entry c o :: ·) (ih (entry c o).after)

/-- The exchanges of calls and of one more. -/
theorem exchanged_snoc (c : σ) (os : List (Occasion δ)) (o : Occasion δ) :
    exchanged (life entry c (os ++ [o]))
      = exchanged (life entry c os) ++ (entry (lived entry c os) o).exchanges := by
  rw [life_append, exchanged_append]
  exact congrArg _ (exchanged_singleton _)

/-- The exchanges of calls, up to one of them, of that one, and after it. -/
theorem exchanged_split (c : σ) (before : List (Occasion δ)) (o : Occasion δ)
    (after : List (Occasion δ)) :
    exchanged (life entry c (before ++ o :: after))
      = exchanged (life entry c before) ++ ((entry (lived entry c before) o).exchanges
        ++ exchanged (life entry (entry (lived entry c before) o).after after)) := by
  rw [life_append, exchanged_append, life, exchanged_cons]

/-- An exchange belongs to one of the calls. -/
theorem exists_of_mem_exchanged {c : σ} {os : List (Occasion δ)} {e : Exchange}
    (member : e ∈ exchanged (life entry c os)) : ∃ before o after, os = before ++ o :: after
      ∧ e ∈ (entry (lived entry c before) o).exchanges := by
  induction os generalizing c with
  | nil => cases member
  | cons o os ih =>
    rw [life, exchanged_cons] at member
    rcases List.mem_append.mp member with now | later
    · exact ⟨[], o, os, rfl, now⟩
    · obtain ⟨before, o', after, rfl, asked⟩ := ih later
      exact ⟨o :: before, o', after, rfl, asked⟩

/-- The last of some calls is made on what the others leave, and leaves the handle as all of them
do. -/
theorem last_of_life {c : σ} {os : List (Occasion δ)} {before : List (Entry σ)} {final : Entry σ}
    (rows : life entry c os = before ++ [final]) :
    ∃ init o, os = init ++ [o] ∧ before = life entry c init
      ∧ final = entry (lived entry c init) o ∧ lived entry c os = final.after := by
  rcases List.eq_nil_or_concat os with rfl | ⟨init, o, split⟩
  · rw [life] at rows
    simp at rows
  · rw [List.concat_eq_append] at split
    subst split
    rw [life_append] at rows
    obtain ⟨same, last⟩ := List.append_inj' rows rfl
    cases last
    exact ⟨init, o, rfl, same.symm, rfl, lived_append c init [o]⟩

end life

end RemoteDriver
