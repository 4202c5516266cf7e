import Mathlib.Data.List.Induction
import RemoteDriver.Options
import RemoteDriver.Proofs.Number.Digits

/-!
# Options that a URL tells

Each option has a name in the query of the endpoint's URL, and the last of its values that is
acceptable decides it (`Options.toldBy_ofPairs`).  So only the values matter that stand under each
of these names, in their order: pairs of other names, where the pairs of one name stand among those
of another, and values that are not acceptable change nothing
(`options_told_by_last_acceptable_values`).
-/

namespace RemoteDriver

/-! ## Numbers of 64 bits -/

/-- A text stands for a whole number of 64 bits without a sign: one or more decimal digits, with
zeros or a plus in front of them or not. -/
def ReadsAsUInt64 (s : String) (n : Nat) : Prop :=
  ∃ digits : List Char, (s.toList = digits ∨ s.toList = '+' :: digits) ∧ digits ≠ [] ∧
    (∀ c ∈ digits, c.isDigit = true) ∧ n = Nat.ofDigitChars 10 digits 0 ∧
      n ≤ 18446744073709551615

namespace Number

/-- Digits are read as the number that they stand for, and nothing else is. -/
theorem digits?_eq_some_iff {s : List Char} {n : Nat} :
    digits? s = some n ↔
      s ≠ [] ∧ (∀ c ∈ s, c.isDigit = true) ∧ n = Nat.ofDigitChars 10 s 0 := by
  have digits : s.all isDigit = true ↔ ∀ c ∈ s, c.isDigit = true := by
    simp only [List.all_eq_true, isDigit_eq]
  unfold digits?
  by_cases h : s ≠ [] ∧ s.all isDigit = true
  · rw [if_pos h, digitsFrom_eq 0 h.2, Option.some.injEq]
    exact ⟨fun same => ⟨h.1, digits.mp h.2, same.symm⟩, fun told => told.2.2.symm⟩
  · rw [if_neg h]
    constructor
    · intro none
      cases none
    · rintro ⟨some, all, _⟩
      exact absurd ⟨some, digits.mpr all⟩ h

/-- What begins with a sign is not all digits. -/
theorem digits?_cons_of_not {c : Char} (sign : isDigit c = false) (r : List Char) :
    digits? (c :: r) = none := by
  unfold digits?
  rw [if_neg]
  rintro ⟨_, all⟩
  rw [List.all_cons, sign] at all
  cases all

/-- A text without a minus sign is read as the digits behind its sign, if they are in bounds. -/
theorem natWithin?_of_signed {high : Nat} {s rest : List Char} (plain : ∀ r, s ≠ '-' :: r)
    (is : (signed s).2 = rest) {n : Nat} :
    natWithin? high s = some n ↔ digits? rest = some n ∧ n ≤ high := by
  unfold natWithin?
  split
  · next r => exact absurd rfl (plain r)
  · rw [is]
    cases digits? rest with
    | none => simp
    | some m =>
      dsimp only
      by_cases fits : m ≤ high
      · rw [if_pos fits, Option.some.injEq]
        exact ⟨fun same => ⟨same, same ▸ fits⟩, fun h => h.1⟩
      · rw [if_neg fits]
        constructor
        · intro none
          cases none
        · rintro ⟨same, below⟩
          cases same
          exact absurd below fits

/-- A plus may stand before the digits, a minus may not. -/
theorem natWithin?_eq_some_iff {high : Nat} {s : List Char} {n : Nat} :
    natWithin? high s = some n ↔
      ∃ digits, (s = digits ∨ s = '+' :: digits) ∧ digits? digits = some n ∧ n ≤ high := by
  cases s with
  | nil => simp [natWithin?, signed, digits?]
  | cons c r =>
    by_cases minus : c = '-'
    · subst minus
      have no : digits? ('-' :: r) = none := digits?_cons_of_not (by decide) r
      constructor
      · intro read
        cases read
      · rintro ⟨digits, rfl | plus, read, _⟩
        · rw [no] at read
          cases read
        · cases plus
    · have plain : ∀ rest, c :: r ≠ '-' :: rest := fun _ same => minus (List.cons.inj same).1
      by_cases plus : c = '+'
      · subst plus
        have no : digits? ('+' :: r) = none := digits?_cons_of_not (by decide) r
        rw [natWithin?_of_signed plain (show (signed ('+' :: r)).2 = r from rfl)]
        constructor
        · intro read
          exact ⟨r, .inr rfl, read⟩
        · rintro ⟨digits, rfl | same, read⟩
          · rw [no] at read
            cases read.1
          · cases same
            exact read
      · have unsigned : (signed (c :: r)).2 = c :: r := by
          unfold signed
          split
          · next same => exact absurd (List.cons.inj same).1 minus
          · next same => exact absurd (List.cons.inj same).1 plus
          · rfl
        rw [natWithin?_of_signed plain unsigned]
        constructor
        · intro read
          exact ⟨c :: r, .inl rfl, read⟩
        · rintro ⟨digits, rfl | same, read⟩
          · exact read
          · exact absurd (List.cons.inj same).1 plus

/-- The numbers of 64 bits are read as their texts say. -/
theorem natWithin?_maxUInt64_iff {s : String} {n : Nat} :
    natWithin? maxUInt64 s.toList = some n ↔ ReadsAsUInt64 s n := by
  have bound : n ≤ maxUInt64 ↔ n ≤ 18446744073709551615 := Iff.rfl
  simp only [natWithin?_eq_some_iff, digits?_eq_some_iff, bound, ReadsAsUInt64, and_assoc]

end Number

/-! ## Values of one name -/

/-- The values that stand under a name, in order. -/
def valuesOf (name : String) (pairs : List (String × String)) : List String :=
  (pairs.filter (·.1 = name)).map (·.2)

/-- A query without pairs has no values. -/
@[simp] theorem valuesOf_nil (name : String) : valuesOf name [] = [] := rfl

/-- The values of a name in a query stand in the order of its parts. -/
theorem valuesOf_append (name : String) (pairs more : List (String × String)) :
    valuesOf name (pairs ++ more) = valuesOf name pairs ++ valuesOf name more := by
  simp [valuesOf]

/-- A pair has its value under its own name. -/
@[simp] theorem valuesOf_same (name value : String) : valuesOf name [(name, value)] = [value] := by
  simp [valuesOf]

/-- A pair has no value under another name. -/
theorem valuesOf_other {name other : String} (value : String) (h : other ≠ name) :
    valuesOf name [(other, value)] = [] := by
  simp [valuesOf, h]

/-- Values decide something: the last of them that is acceptable does, as what it is accepted as,
and without any it is the default. -/
inductive Decided {α : Type} (accepts : String → α → Prop) (default : α) (values : List String) :
    α → Prop
  /-- One is accepted and none after it is. -/
  | last (before : List String) (value : String) (after : List String) {a : α}
      (is : values = before ++ value :: after) (accepted : accepts value a)
      (final : ∀ v ∈ after, ∀ b, ¬ accepts v b) : Decided accepts default values a
  /-- None is accepted. -/
  | none (all : ∀ v ∈ values, ∀ b, ¬ accepts v b) : Decided accepts default values default

namespace Decided

variable {α : Type} {accepts : String → α → Prop} {default a : α} {values : List String}

/-- Without values it is the default that holds. -/
theorem nil : Decided accepts default [] default := .none fun _ h => by cases h

/-- An acceptable value decides, whatever stood before it. -/
theorem snoc_of_accepts {v : String} (h : accepts v a) (values : List String) :
    Decided accepts default (values ++ [v]) a :=
  .last values v [] rfl h fun _ h => by cases h

/-- A value that is not acceptable leaves what was decided before it. -/
theorem snoc_of_refuses {v : String} (h : ∀ b, ¬ accepts v b)
    (decided : Decided accepts default values a) : Decided accepts default (values ++ [v]) a := by
  cases decided with
  | last before value after is accepted final =>
    refine .last before value (after ++ [v]) (by rw [is, List.append_assoc, List.cons_append])
      accepted fun u hu => ?_
    rcases List.mem_append.mp hu with old | new
    · exact final u old
    · exact List.mem_singleton.mp new ▸ h
  | none all =>
    refine .none fun u hu => ?_
    rcases List.mem_append.mp hu with old | new
    · exact all u old
    · exact List.mem_singleton.mp new ▸ h

/-- The value that decides is one of those that were given. -/
theorem mem_of_eq {before after : List String} {v : String}
    (is : values = before ++ v :: after) : v ∈ values := by
  rw [is]
  exact List.mem_append_right _ (List.mem_cons_self ..)

/-- Of two places in a list one comes first, or they are the same. -/
theorem same_or_after {before before' after after' : List String} {v v' : String}
    (h : before ++ v :: after = before' ++ v' :: after') : v = v' ∨ v' ∈ after ∨ v ∈ after' := by
  rcases List.append_eq_append_iff.mp h with ⟨between, _, rest⟩ | ⟨between, _, rest⟩
  · cases between with
    | nil => exact .inl (List.cons.inj rest).1
    | cons _ between => exact .inr (.inl (mem_of_eq (List.cons.inj rest).2))
  · cases between with
    | nil => exact .inl (List.cons.inj rest).1.symm
    | cons _ between => exact .inr (.inr (mem_of_eq (List.cons.inj rest).2))

/-- Values decide in one way only. -/
theorem unique (functional : ∀ v a b, accepts v a → accepts v b → a = b) {b : α}
    (one : Decided accepts default values a) (two : Decided accepts default values b) : a = b := by
  cases one with
  | last _ _ _ is accepted final =>
    cases two with
    | last _ _ _ is' accepted' final' =>
      rcases same_or_after (is.symm.trans is') with rfl | later | later
      · exact functional _ _ _ accepted accepted'
      · exact absurd accepted' (final _ later _)
      · exact absurd accepted (final' _ later _)
    | none all => exact absurd accepted (all _ (mem_of_eq is) _)
  | none all =>
    cases two with
    | last _ _ _ is' accepted' _ => exact absurd accepted' (all _ (mem_of_eq is') _)
    | none _ => rfl

/-- A pair of another name leaves what was decided. -/
theorem append_of_other {name other : String} (h : other ≠ name) (value : String)
    {pairs : List (String × String)} (decided : Decided accepts default (valuesOf name pairs) a) :
    Decided accepts default (valuesOf name (pairs ++ [(other, value)])) a := by
  rw [valuesOf_append, valuesOf_other value h, List.append_nil]
  exact decided

/-- A pair leaves what was decided if its value is not acceptable under its name. -/
theorem append_of_refuses {name : String} {pairs : List (String × String)}
    {pair : String × String} (refuses : pair.1 = name → ∀ b, ¬ accepts pair.2 b)
    (decided : Decided accepts default (valuesOf name pairs) a) :
    Decided accepts default (valuesOf name (pairs ++ [pair])) a := by
  obtain ⟨other, value⟩ := pair
  by_cases same : other = name
  · rw [valuesOf_append, same, valuesOf_same]
    exact decided.snoc_of_refuses (refuses same)
  · exact decided.append_of_other same value

/-- A pair of the name with an acceptable value decides. -/
theorem append_of_accepts {name value : String} (accepted : accepts value a)
    (pairs : List (String × String)) :
    Decided accepts default (valuesOf name (pairs ++ [(name, value)])) a := by
  rw [valuesOf_append, valuesOf_same]
  exact snoc_of_accepts accepted _

end Decided

/-! ## Options and the pairs of a query -/

/-- A text stands for one number at most. -/
theorem ReadsAsUInt64.unique {s : String} {m n : Nat} (one : ReadsAsUInt64 s m)
    (two : ReadsAsUInt64 s n) : m = n :=
  Option.some.inj ((Number.natWithin?_maxUInt64_iff.mpr one).symm.trans
    (Number.natWithin?_maxUInt64_iff.mpr two))

/-- A query can be read off a URL only if the text is one. -/
theorem Endpoint.exists_url_of_pairs {uri : String} {pairs : List (String × String)}
    (h : (urlOfText uri).toOption.map Url.queryPairs = some pairs) :
    ∃ url, urlOfText uri = .ok url ∧ url.queryPairs = pairs := by
  cases parses : urlOfText uri with
  | error e =>
    rw [parses] at h
    cases h
  | ok url =>
    rw [parses] at h
    exact ⟨url, rfl, Option.some.inj h⟩

namespace Options

/-- The names under which a query tells options. -/
def recognized : List String := ["appName", "changeStreamTimeoutMS", "defaultDatabase"]

/-- Options are what the pairs of a query tell. -/
structure ToldBy (o : Options) (pairs : List (String × String)) : Prop where
  /-- The application has the last name that is given. -/
  appName : Decided (fun value name => name = some value) none (valuesOf "appName" pairs) o.appName
  /-- A fetch of a change stream takes at most the last number that is given, else half a
  minute. -/
  changeStreamTimeout : Decided ReadsAsUInt64 30000 (valuesOf "changeStreamTimeoutMS" pairs)
    o.changeStreamTimeout
  /-- The default database is the last one that is named and not empty. -/
  defaultDatabase : Decided (fun value name => value ≠ "" ∧ name = some value) none
    (valuesOf "defaultDatabase" pairs) o.defaultDatabase
  /-- No pair tells the codec. -/
  codec : o.codec = .relaxed

/-- Options are told something by a pair: its name is that of an option, and its value is
acceptable to it. -/
def Hears (pair : String × String) : Prop :=
  pair.1 = "appName" ∨ (pair.1 = "changeStreamTimeoutMS" ∧ ∃ n, ReadsAsUInt64 pair.2 n) ∨
    (pair.1 = "defaultDatabase" ∧ pair.2 ≠ "")

/-- Options are told in one way, by the values under their names. -/
theorem ToldBy.unique {o o' : Options} {pairs pairs' : List (String × String)}
    (same : ∀ name ∈ recognized, valuesOf name pairs = valuesOf name pairs')
    (one : o.ToldBy pairs) (two : o'.ToldBy pairs') : o = o' := by
  have alike := fun name known => (same name known).symm
  have appName : o.appName = o'.appName :=
    one.appName.unique (fun _ _ _ h h' => h.trans h'.symm)
      (alike "appName" (by decide) ▸ two.appName)
  have timeout : o.changeStreamTimeout = o'.changeStreamTimeout :=
    one.changeStreamTimeout.unique (fun _ _ _ h h' => h.unique h')
      (alike "changeStreamTimeoutMS" (by decide) ▸ two.changeStreamTimeout)
  have database : o.defaultDatabase = o'.defaultDatabase :=
    one.defaultDatabase.unique (fun _ _ _ h h' => h.2.trans h'.2.symm)
      (alike "defaultDatabase" (by decide) ▸ two.defaultDatabase)
  have codec : o.codec = o'.codec := one.codec.trans two.codec.symm
  obtain ⟨⟩ := o
  obtain ⟨⟩ := o'
  exact (Options.mk.injEq ..).mpr ⟨appName, timeout, database, codec⟩

/-! ### One more pair -/

/-- A pair that options do not hear leaves them. -/
theorem withPair_of_not_hears {pair : String × String} (deaf : ¬ Hears pair) (o : Options) :
    o.withPair pair = o := by
  obtain ⟨name, value⟩ := pair
  have notName : name ≠ "appName" := fun h => deaf (.inl h)
  have notDatabase : ¬ (name = "defaultDatabase" ∧ value ≠ "") := fun h => deaf (.inr (.inr h))
  unfold withPair
  dsimp only
  rw [if_neg notName]
  by_cases timeout : name = "changeStreamTimeoutMS"
  · rw [if_pos timeout]
    split
    · next n read =>
      exact absurd (.inr (.inl ⟨timeout, n, Number.natWithin?_maxUInt64_iff.mp read⟩)) deaf
    · rfl
  · rw [if_neg timeout, if_neg notDatabase]

/-- A name of the application is taken as it is. -/
theorem withPair_appName (o : Options) (value : String) :
    o.withPair ("appName", value) = { o with appName := some value } := rfl

/-- A time for change streams is taken if it is a number of 64 bits. -/
theorem withPair_changeStreamTimeout (o : Options) {value : String} {n : Nat}
    (read : ReadsAsUInt64 value n) :
    o.withPair ("changeStreamTimeoutMS", value) = { o with changeStreamTimeout := n } := by
  unfold withPair
  dsimp only
  rw [if_neg (by decide), if_pos rfl, Number.natWithin?_maxUInt64_iff.mpr read]

/-- A name of a database is taken if it is not empty. -/
theorem withPair_defaultDatabase (o : Options) {value : String} (some : value ≠ "") :
    o.withPair ("defaultDatabase", value) = { o with defaultDatabase := .some value } := by
  unfold withPair
  dsimp only
  rw [if_neg (by decide), if_neg (by decide), if_pos ⟨rfl, some⟩]

/-- The standard options are what a query without pairs tells. -/
theorem toldBy_standard : standard.ToldBy [] := ⟨.nil, .nil, .nil, rfl⟩

/-- One more pair tells what `withPair` makes of it. -/
theorem ToldBy.withPair {o : Options} {pairs : List (String × String)} (told : o.ToldBy pairs)
    (pair : String × String) : (o.withPair pair).ToldBy (pairs ++ [pair]) := by
  by_cases hears : Hears pair
  · obtain ⟨name, value⟩ := pair
    -- The option of this name is decided anew, the others hear nothing of it.
    obtain rfl | ⟨rfl, n, read⟩ | ⟨rfl, some⟩ := hears
    · rw [withPair_appName]
      refine ⟨.append_of_accepts ?_ pairs,
        told.changeStreamTimeout.append_of_other (by decide) value,
        told.defaultDatabase.append_of_other (by decide) value, told.codec⟩
      rfl
    · rw [withPair_changeStreamTimeout o read]
      exact ⟨told.appName.append_of_other (by decide) value, .append_of_accepts read pairs,
        told.defaultDatabase.append_of_other (by decide) value, told.codec⟩
    · rw [withPair_defaultDatabase o some]
      exact ⟨told.appName.append_of_other (by decide) value,
        told.changeStreamTimeout.append_of_other (by decide) value,
        .append_of_accepts ⟨some, rfl⟩ pairs, told.codec⟩
  · rw [withPair_of_not_hears hears]
    exact ⟨told.appName.append_of_refuses fun name => absurd (.inl name) hears,
      told.changeStreamTimeout.append_of_refuses
        fun name n read => hears (.inr (.inl ⟨name, n, read⟩)),
      told.defaultDatabase.append_of_refuses
        fun name _ named => hears (.inr (.inr ⟨name, named.1⟩)),
      told.codec⟩

/-! ### All pairs -/

/-- Pairs that come later are told to the options that the earlier ones leave. -/
theorem ofPairs_append (pairs more : List (String × String)) :
    ofPairs (pairs ++ more) = more.foldl withPair (ofPairs pairs) := List.foldl_append ..

/-- The options of a query are what its pairs tell. -/
theorem toldBy_ofPairs (pairs : List (String × String)) : (ofPairs pairs).ToldBy pairs := by
  induction pairs using List.reverseRecOn with
  | nil => exact toldBy_standard
  | append_singleton pairs pair ih =>
    rw [ofPairs_append]
    exact ih.withPair pair

/-- The values under the names of options decide them. -/
theorem ofPairs_congr {pairs pairs' : List (String × String)}
    (same : ∀ name ∈ recognized, valuesOf name pairs = valuesOf name pairs') :
    ofPairs pairs = ofPairs pairs' :=
  (toldBy_ofPairs pairs).unique same (toldBy_ofPairs pairs')

/-- A pair that options do not hear might as well not be there. -/
theorem ofPairs_of_not_hears {pair : String × String} (deaf : ¬ Hears pair)
    (before after : List (String × String)) :
    ofPairs (before ++ pair :: after) = ofPairs (before ++ after) := by
  rw [ofPairs_append, ofPairs_append, List.foldl_cons, withPair_of_not_hears deaf]

/-- The options of a URL are those that its query tells. -/
theorem ofText_of_ok {uri : String} {url : Url} (parses : Endpoint.urlOfText uri = .ok url) :
    ofText uri = .ok (ofPairs url.queryPairs) := by
  rw [ofText, parses]

end Options

/-- The options that the URL of an endpoint tells are decided option by option: by the last value
under its name that is acceptable, and by the default where there is none.  So URLs tell the same
if each of these names has the same values in the same order in both, and a pair of another name,
or with a value that is not acceptable, changes nothing wherever it stands. -/
theorem options_told_by_last_acceptable_values {uri : String} {url : Url}
    (parses : Endpoint.urlOfText uri = .ok url) :
    (∀ o, Options.ofText uri = .ok o ↔ o.ToldBy url.queryPairs) ∧
    (∀ uri' url', Endpoint.urlOfText uri' = .ok url' →
      (∀ name ∈ Options.recognized,
        valuesOf name url.queryPairs = valuesOf name url'.queryPairs) →
      Options.ofText uri = Options.ofText uri') ∧
    ∀ before pair after, ¬ Options.Hears pair → url.queryPairs = before ++ pair :: after →
      ∀ uri' url', Endpoint.urlOfText uri' = .ok url' → url'.queryPairs = before ++ after →
        Options.ofText uri = Options.ofText uri' := by
  refine ⟨fun o => ?_, fun uri' url' parses' same => ?_,
    fun before pair after deaf is uri' url' parses' is' => ?_⟩
  · rw [Options.ofText_of_ok parses, Except.ok.injEq]
    constructor
    · rintro rfl
      exact Options.toldBy_ofPairs _
    · exact fun told => (Options.toldBy_ofPairs _).unique (fun _ _ => rfl) told
  · rw [Options.ofText_of_ok parses, Options.ofText_of_ok parses', Options.ofPairs_congr same]
  · rw [Options.ofText_of_ok parses, Options.ofText_of_ok parses', is, is',
      Options.ofPairs_of_not_hears deaf]

/-- The application has the second of its names, and what is no number leaves the one before it.
The pairs in another order and without the unknown name say the same, and so does the query
without what is no number. -/
theorem options_of_repeated_pairs :
    (∃ url, Endpoint.urlOfText
        "http://h/?appName=a&r=1&appName=b&changeStreamTimeoutMS=5&changeStreamTimeoutMS=x"
        = .ok url) ∧
      Options.ofText
        "http://h/?appName=a&r=1&appName=b&changeStreamTimeoutMS=5&changeStreamTimeoutMS=x"
        = .ok ⟨some "b", 5, none, .relaxed⟩ ∧
      Options.ofText
        "http://h/?appName=a&r=1&appName=b&changeStreamTimeoutMS=5&changeStreamTimeoutMS=x"
        = Options.ofText
          "http://h/?changeStreamTimeoutMS=5&appName=a&changeStreamTimeoutMS=x&appName=b" ∧
      Options.ofText
        "http://h/?appName=a&r=1&appName=b&changeStreamTimeoutMS=5&changeStreamTimeoutMS=x"
        = Options.ofText "http://h/?appName=a&r=1&appName=b&changeStreamTimeoutMS=5" := by
  obtain ⟨url, parses, pairs⟩ := Endpoint.exists_url_of_pairs (show (Endpoint.urlOfText
    "http://h/?appName=a&r=1&appName=b&changeStreamTimeoutMS=5&changeStreamTimeoutMS=x"
    ).toOption.map Url.queryPairs = some [("appName", "a"), ("r", "1"), ("appName", "b"),
      ("changeStreamTimeoutMS", "5"), ("changeStreamTimeoutMS", "x")] by decide +kernel)
  obtain ⟨moved, parses', pairs'⟩ := Endpoint.exists_url_of_pairs (show (Endpoint.urlOfText
    "http://h/?changeStreamTimeoutMS=5&appName=a&changeStreamTimeoutMS=x&appName=b"
    ).toOption.map Url.queryPairs = some [("changeStreamTimeoutMS", "5"), ("appName", "a"),
      ("changeStreamTimeoutMS", "x"), ("appName", "b")] by decide +kernel)
  obtain ⟨fewer, parses'', pairs''⟩ := Endpoint.exists_url_of_pairs (show (Endpoint.urlOfText
    "http://h/?appName=a&r=1&appName=b&changeStreamTimeoutMS=5"
    ).toOption.map Url.queryPairs = some [("appName", "a"), ("r", "1"), ("appName", "b"),
      ("changeStreamTimeoutMS", "5")] by decide +kernel)
  have noNumber : ∀ n, ¬ ReadsAsUInt64 "x" n := fun n read => by
    have text := Number.natWithin?_maxUInt64_iff.mpr read
    rw [show Number.natWithin? Number.maxUInt64 "x".toList = none by decide] at text
    cases text
  obtain ⟨told, same, unheard⟩ := options_told_by_last_acceptable_values parses
  refine ⟨⟨url, parses⟩, (told _).mpr ?_, same _ moved parses' ?_,
    unheard [("appName", "a"), ("r", "1"), ("appName", "b"), ("changeStreamTimeoutMS", "5")]
      ("changeStreamTimeoutMS", "x") [] ?_ pairs _ fewer parses'' pairs''⟩
  · rw [pairs]
    exact ⟨.last ["a"] "b" [] rfl rfl (by simp),
      .last [] "5" ["x"] rfl (Number.natWithin?_maxUInt64_iff.mp (by decide))
        (by simpa using noNumber),
      .none (by simp [valuesOf]), rfl⟩
  · rw [pairs, pairs']
    decide
  · rintro (name | ⟨-, n, read⟩ | ⟨name, -⟩)
    · exact absurd name (by decide)
    · exact noNumber n read
    · exact absurd name (by decide)

end RemoteDriver
