/-
What is wrong with a JSON tree that is no bundle, and which fault is reported: the first one in reading
order (`parse_first_fault`).

`Fault names j place e` says that the tree `j` under `names` has the fault `e` at `place`. A place is a list
of positions, from member to member, so reading order is the lexicographic order of lists. A value or item
that does not fit is a fault where it stands; a repeated name is a fault at the closing brace of its object,
behind all members. A tree without faults is one in which all that members lead to fits
(`Fault.exists_iff`).
-/
import Mathlib.Data.List.Induction
import TripLocale.Proofs.Bundle.RoundTrip

namespace TripLocale

/-! ## What fits -/

namespace Json

/-- `Leads j u`: members lead from `j` to `u`. -/
inductive Leads : Json → Json → Prop
  | refl (j : Json) : Leads j j
  | member {ms : List (String × Json)} {m : String × Json} {u : Json} :
      m ∈ ms → Leads m.2 u → Leads (.object ms) u

/-- An array of a value and a label. -/
def IsChoice (j : Json) : Prop := ∃ value label, j = .array [.string value, .string label]

/-- The value may stand in a bundle, as far as what its members hold does. -/
def Fits : Json → Prop
  | .string _ => True
  | .object ms => (ms.map (·.1)).Nodup
  | .array items => (∀ j ∈ items, ∃ t, j = .string t) ∨ ∀ j ∈ items, IsChoice j
  | _ => False

/-- The value is of a kind that no bundle has. -/
def IsForeign : Json → Prop
  | .null | .bool _ | .number _ => True
  | _ => False

end Json

/-! ## Faults -/

/-- `Fault names j place e`: in the tree `j`, to which the member names `names` lead, stands the fault `e`
at `place`. -/
inductive Fault : List String → Json → List Nat → BundleError → Prop
  | value {names : List String} {j : Json} : j.IsForeign →
      Fault names j [] (.misfit (".".intercalate names) (.value j.describe))
  | item {names : List String} {items : List Json} {i : Nat} {j : Json} :
      ¬ (∀ j ∈ items, ∃ t, j = .string t) → items[i]? = some j → ¬ Json.IsChoice j →
      Fault names (.array items) [i]
        (.misfit (".".intercalate names ++ "[" ++ toString i ++ "]") (.choice j.describe))
  | member {names : List String} {ms : List (String × Json)} {i : Nat} {k : String} {j : Json}
      {place : List Nat} {e : BundleError} :
      ms[i]? = some (k, j) → Fault (names ++ [k]) j place e → Fault names (.object ms) (i :: place) e
  /-- Behind all members, the first name that occurred before. -/
  | repeated {names : List String} {ms : List (String × Json)} {front back : List String} {k : String} :
      ms.map (·.1) = front ++ k :: back → k ∈ front → front.Nodup →
      Fault names (.object ms) [ms.length] (.duplicateKey (".".intercalate (names ++ [k])))

/-- Reading order: of two places in one tree, the first stands before the second. -/
def Precedes (place place' : List Nat) : Prop := List.Lex (· < ·) place place'

theorem precedes_cons_iff {m n : Nat} {place place' : List Nat} :
    Precedes (m :: place) (n :: place') ↔ m < n ∨ m = n ∧ Precedes place place' :=
  List.cons_lex_cons_iff

theorem not_precedes_nil (place : List Nat) : ¬ Precedes place [] := nofun

theorem precedes_singleton_iff {m n : Nat} : Precedes [m] [n] ↔ m < n := by
  simp [precedes_cons_iff, not_precedes_nil]

/-- Of two different places one precedes the other. -/
theorem eq_of_not_precedes {place place' : List Nat} (h : ¬ Precedes place place')
    (h' : ¬ Precedes place' place) : place = place' := by
  induction place generalizing place' with
  | nil =>
    cases place' with
    | nil => rfl
    | cons n place' => exact absurd .nil h
  | cons m place ih =>
    cases place' with
    | nil => exact absurd .nil h'
    | cons n place' =>
      rw [precedes_cons_iff, not_or] at h h'
      obtain rfl : m = n := Nat.le_antisymm (Nat.not_lt.1 h'.1) (Nat.not_lt.1 h.1)
      rw [ih (fun hp => h.2 ⟨rfl, hp⟩) fun hp => h'.2 ⟨rfl, hp⟩]

theorem exists_repeated {ks : List String} (h : ¬ ks.Nodup) :
    ∃ front k back, ks = front ++ k :: back ∧ k ∈ front ∧ front.Nodup := by
  induction ks using List.reverseRecOn with
  | nil => exact absurd List.nodup_nil h
  | append_singleton ks k ih =>
    by_cases hks : ks.Nodup
    · by_cases hk : k ∈ ks
      · exact ⟨ks, k, [], rfl, hk, hks⟩
      · refine absurd (List.nodup_append.2 ⟨hks, by simp, fun a ha b hb hab => hk ?_⟩) h
        rw [← List.mem_singleton.1 hb, ← hab]
        exact ha
    · obtain ⟨front, k', back, rfl, hk, hf⟩ := ih hks
      exact ⟨front, k', back ++ [k], by simp, hk, hf⟩

/-- The first name that occurred before is one name. -/
theorem repeated_unique {front front' back back' : List String} {k k' : String}
    (h : front ++ k :: back = front' ++ k' :: back') (hk : k ∈ front) (hf : front.Nodup)
    (hk' : k' ∈ front') (hf' : front'.Nodup) : k = k' := by
  rcases List.append_eq_append_iff.1 h with ⟨mid, rfl, hmid⟩ | ⟨mid, rfl, hmid⟩
  · cases mid with
    | nil => exact (List.cons.inj hmid).1
    | cons x mid =>
      obtain ⟨rfl, -⟩ := List.cons.inj hmid
      exact absurd rfl ((List.nodup_append.1 hf').2.2 k hk k (by simp))
  · cases mid with
    | nil => exact (List.cons.inj hmid).1.symm
    | cons x mid =>
      obtain ⟨rfl, -⟩ := List.cons.inj hmid
      exact absurd rfl ((List.nodup_append.1 hf).2.2 k' hk' k' (by simp))

namespace Fault

theorem not_nodup {ms : List (String × Json)} {front back : List String} {k : String}
    (h : ms.map (·.1) = front ++ k :: back) (hk : k ∈ front) : ¬ (ms.map (·.1)).Nodup := by
  rw [h, List.nodup_append]
  rintro ⟨-, -, hne⟩
  exact hne k hk k (by simp) rfl

/-- A tree has a fault exactly when its members lead to a value that does not fit. -/
theorem exists_iff {names : List String} {j : Json} :
    (∃ place e, Fault names j place e) ↔ ∃ u, j.Leads u ∧ ¬ u.Fits := by
  constructor
  · rintro ⟨place, e, h⟩
    induction h with
    | @value names j hj =>
      refine ⟨j, .refl j, ?_⟩
      cases j with
      | string t => cases hj
      | array items => cases hj
      | object ms => cases hj
      | _ => exact id
    | @item names items i j hitems hi hj =>
      refine ⟨_, .refl _, ?_⟩
      rintro (hall | hall)
      · exact hitems hall
      · exact hj (hall j (List.mem_of_getElem? hi))
    | member hi _ ih =>
      obtain ⟨u, hu, hfits⟩ := ih
      exact ⟨u, .member (List.mem_of_getElem? hi) hu, hfits⟩
    | repeated hks hk _ => exact ⟨_, .refl _, not_nodup hks hk⟩
  · rintro ⟨u, hu, hfits⟩
    induction hu generalizing names with
    | refl j =>
      cases j with
      | null => exact ⟨_, _, .value trivial⟩
      | bool b => exact ⟨_, _, .value trivial⟩
      | number n => exact ⟨_, _, .value trivial⟩
      | string t => exact absurd trivial hfits
      | array items =>
        obtain ⟨hstrings, hchoices⟩ := not_or.1 hfits
        obtain ⟨j, hmem, hj⟩ : ∃ j ∈ items, ¬ Json.IsChoice j := by simpa using hchoices
        obtain ⟨i, hi⟩ := List.mem_iff_getElem?.1 hmem
        exact ⟨_, _, .item hstrings hi hj⟩
      | object ms =>
        obtain ⟨front, k, back, hks, hk, hf⟩ := exists_repeated hfits
        exact ⟨_, _, .repeated hks hk hf⟩
    | @member ms m u hm _ ih =>
      obtain ⟨k, j⟩ := m
      obtain ⟨i, hi⟩ := List.mem_iff_getElem?.1 hm
      have hfault : ∃ place e, Fault (names ++ [k]) j place e := ih hfits
      obtain ⟨place, e, h⟩ := hfault
      exact ⟨_, _, .member hi h⟩

/-- All that is wrong with the members of an object stands before its closing brace. -/
theorem precedes_closing {names : List String} {ms : List (String × Json)} {place : List Nat}
    {e : BundleError} (h : Fault names (.object ms) place e) :
    Precedes place [ms.length] ∨ ∃ key, place = [ms.length] ∧ e = .duplicateKey key := by
  cases h with
  | value hj => cases hj
  | member hi _ => exact .inl (precedes_cons_iff.2 (.inl (List.getElem?_eq_some_iff.1 hi).1))
  | repeated => exact .inr ⟨_, rfl, rfl⟩

/-- At one place stands one fault. -/
theorem unique {names : List String} {j : Json} {place : List Nat} {e f : BundleError}
    (h : Fault names j place e) (h' : Fault names j place f) : e = f := by
  induction h with
  | value _ =>
    cases h' with
    | value _ => rfl
  | item _ hi _ =>
    cases h' with
    | item _ hi' _ =>
      cases hi.symm.trans hi'
      rfl
  | member hi h ih =>
    cases h' with
    | member hi' h' =>
      cases hi.symm.trans hi'
      exact ih h'
    | repeated =>
      -- there is no member at the closing brace
      simp at hi
  | repeated hks hk hf =>
    cases h' with
    | member hi' _ => simp at hi'
    | repeated hks' hk' hf' => rw [repeated_unique (hks.symm.trans hks') hk hf hk' hf']

end Fault

/-! ## The first fault -/

/-- What was read from the tree `j` under `names`: something if there is no fault, and else the first
fault. -/
def Reports {α : Type} (names : List String) (j : Json) : Except BundleError α → Prop
  | .ok _ => ∀ place e, ¬ Fault names j place e
  | .error e => ∃ place, Fault names j place e ∧ ∀ place' f, Fault names j place' f → ¬ Precedes place' place

namespace Reports

variable {α : Type} {names : List String} {j : Json} {x : Except BundleError α}

theorem exists_ok_iff (h : Reports names j x) :
    (∃ a, x = .ok a) ↔ ∀ place e, ¬ Fault names j place e := by
  cases x with
  | ok a => exact ⟨fun _ => h, fun _ => ⟨a, rfl⟩⟩
  | error e =>
    obtain ⟨place, hfault, -⟩ := h
    exact ⟨nofun, fun hnone => absurd hfault (hnone place e)⟩

/-- Nothing but the first fault is reported. -/
theorem eq_error_iff (h : Reports names j x) {e : BundleError} :
    x = .error e ↔
      ∃ place, Fault names j place e ∧ ∀ place' f, Fault names j place' f → ¬ Precedes place' place := by
  constructor
  · rintro rfl
    exact h
  · rintro ⟨place, hfault, hfirst⟩
    cases x with
    | ok a => exact absurd hfault (h place e)
    | error f =>
      obtain ⟨place', hfault', hfirst'⟩ := h
      obtain rfl : place = place' :=
        eq_of_not_precedes (hfirst' _ _ hfault) (hfirst _ _ hfault')
      rw [hfault.unique hfault']

end Reports

/-! ## Items -/

theorem Json.texts?_eq_none_iff {js : List Json} :
    Json.texts? js = none ↔ ¬ ∀ j ∈ js, ∃ t, j = .string t := by
  induction js with
  | nil => simp [Json.texts?]
  | cons j js ih =>
    rw [List.forall_mem_cons]
    cases j with
    | string s => simp [Json.texts?, ih]
    | _ => simp [Json.texts?]

namespace Choice

theorem ofJson_eq_error_iff {path : String} {j : Json} {e : BundleError} :
    ofJson path j = .error e ↔ ¬ Json.IsChoice j ∧ e = .misfit path (.choice j.describe) := by
  unfold ofJson
  split
  · next value label => simp [Json.IsChoice]
  · next hj =>
    have hnot : ¬ Json.IsChoice j := fun ⟨value, label, h⟩ => hj value label h
    simp [hnot, eq_comm]

theorem ofItems_eq_error {path : String} {i : Nat} {js : List Json} {e : BundleError}
    (h : ofItems path i js = .error e) :
    ∃ n j, js[n]? = some j ∧ ¬ Json.IsChoice j ∧ (∀ m x, m < n → js[m]? = some x → Json.IsChoice x) ∧
      e = .misfit (path ++ "[" ++ toString (i + n) ++ "]") (.choice j.describe) := by
  induction js generalizing i with
  | nil => cases h
  | cons j js ih =>
    rw [ofItems, bind_eq_error_iff] at h
    rcases h with h | ⟨c, hc, h⟩
    · obtain ⟨hj, rfl⟩ := ofJson_eq_error_iff.1 h
      exact ⟨0, j, rfl, hj, fun _ _ hm => absurd hm (Nat.not_lt_zero _), rfl⟩
    · rcases bind_eq_error_iff.1 h with h | ⟨cs, -, h⟩
      · obtain ⟨n, x, hn, hx, hbefore, rfl⟩ := ih h
        refine ⟨n + 1, x, hn, hx, fun m y hm hy => ?_, by rw [Nat.add_right_comm, Nat.add_assoc]⟩
        cases m with
        | zero =>
          cases hy
          exact ⟨c.value, c.label, (ofJson_eq_ok_iff.1 hc).symm⟩
        | succ m => exact hbefore m y (by omega) hy
      · cases h

end Choice

namespace Value

theorem reports_ofItems (names : List String) (items : List Json) :
    Reports names (.array items) (ofItems (".".intercalate names) items) := by
  have hinv : ∀ {place e}, Fault names (.array items) place e →
      ∃ i j, place = [i] ∧ ¬ (∀ j ∈ items, ∃ t, j = .string t) ∧ items[i]? = some j ∧
        ¬ Json.IsChoice j := fun h => by
    cases h with
    | value hj => cases hj
    | item hitems hi hj => exact ⟨_, _, rfl, hitems, hi, hj⟩
  unfold ofItems
  cases ht : Json.texts? items with
  | some ts =>
    intro place e h
    obtain ⟨i, j, -, hitems, -, -⟩ := hinv h
    rw [Json.texts?_eq_none_iff.2 hitems] at ht
    cases ht
  | none =>
    have hitems := Json.texts?_eq_none_iff.1 ht
    cases hcs : Choice.ofItems (".".intercalate names) 0 items with
    | ok cs =>
      intro place e h
      obtain ⟨i, j, -, -, hi, hj⟩ := hinv h
      rw [← Choice.ofItems_eq_ok_iff.1 hcs] at hi
      obtain ⟨c, -, rfl⟩ := List.mem_map.1 (List.mem_of_getElem? hi)
      exact hj ⟨c.value, c.label, rfl⟩
    | error e =>
      obtain ⟨n, j, hn, hj, hbefore, rfl⟩ := Choice.ofItems_eq_error hcs
      refine ⟨[n], by rw [Nat.zero_add]; exact .item hitems hn hj, fun place f h => ?_⟩
      obtain ⟨i, x, rfl, -, hi, hx⟩ := hinv h
      rw [precedes_singleton_iff]
      exact fun hlt => hx (hbefore i x hlt hi)

/-! ## Members -/

theorem keys_of_ofMembers {place : String → String} {ms : List (String × Json)}
    {es : List (String × Value)} (h : ofMembers place ms = .ok es) : es.map (·.1) = ms.map (·.1) := by
  induction ms generalizing es with
  | nil =>
    cases h
    rfl
  | cons m ms ih =>
    obtain ⟨k, j⟩ := m
    obtain ⟨v, -, h⟩ := bind_eq_ok_iff.1 h
    obtain ⟨es', hes, h⟩ := bind_eq_ok_iff.1 h
    cases h
    rw [List.map_cons, List.map_cons, ih hes]

/-- Members are read when each of them is. -/
theorem exists_ok_of_ofMembers {place : String → String} {ms : List (String × Json)}
    {es : List (String × Value)} (h : ofMembers place ms = .ok es) :
    ∀ m ∈ ms, ∃ v, ofJson (place m.1) m.2 = .ok v := by
  induction ms generalizing es with
  | nil => nofun
  | cons m ms ih =>
    obtain ⟨k, j⟩ := m
    obtain ⟨v, hv, h⟩ := bind_eq_ok_iff.1 h
    obtain ⟨es', hes, -⟩ := bind_eq_ok_iff.1 h
    exact List.forall_mem_cons.2 ⟨⟨v, hv⟩, ih hes⟩

/-- The error of members is that of the first one that cannot be read. -/
theorem ofMembers_eq_error {place : String → String} {ms : List (String × Json)} {e : BundleError}
    (h : ofMembers place ms = .error e) :
    ∃ i k j, ms[i]? = some (k, j) ∧ ofJson (place k) j = .error e ∧
      ∀ (n : Nat) (m : String × Json), n < i → ms[n]? = some m →
        ∃ v, ofJson (place m.1) m.2 = .ok v := by
  induction ms with
  | nil => cases h
  | cons m ms ih =>
    obtain ⟨k, j⟩ := m
    rcases bind_eq_error_iff.1 h with h | ⟨v, hv, h⟩
    · exact ⟨0, k, j, rfl, h, fun _ _ hn => absurd hn (Nat.not_lt_zero _)⟩
    · rcases bind_eq_error_iff.1 h with h | ⟨es, -, h⟩
      · obtain ⟨i, k', j', hi, he, hbefore⟩ := ih h
        refine ⟨i + 1, k', j', hi, he, fun n m hn hm => ?_⟩
        cases n with
        | zero =>
          cases hm
          exact ⟨v, hv⟩
        | succ n => exact hbefore n m (by omega) hm
      · cases h

end Value

namespace Bundle

theorem repeatedKey?_eq_some {before : List String} {es : List (String × Value)} {k : String}
    (h : repeatedKey? before es = some k) :
    ∃ front back, es.map (·.1) = front ++ k :: back ∧ (k ∈ before ∨ k ∈ front) ∧ front.Nodup ∧
      ∀ x ∈ front, x ∉ before := by
  induction es generalizing before with
  | nil => cases h
  | cons e es ih =>
    obtain ⟨k', v⟩ := e
    rw [repeatedKey?] at h
    split at h
    · next hk =>
      cases h
      exact ⟨[], es.map (·.1), rfl, .inl hk, List.nodup_nil, List.forall_mem_nil _⟩
    · next hk =>
      obtain ⟨front, back, hes, hmem, hfront, hbefore⟩ := ih h
      have hnot : k' ∉ front := fun hx => hbefore k' hx (List.mem_cons_self ..)
      refine ⟨k' :: front, back, by rw [List.map_cons, hes]; rfl, ?_,
        List.nodup_cons.2 ⟨hnot, hfront⟩, List.forall_mem_cons.2 ⟨hk, fun x hx hb =>
          hbefore x hx (List.mem_cons_of_mem _ hb)⟩⟩
      rcases hmem with hmem | hmem
      · rcases List.mem_cons.1 hmem with rfl | hmem
        · exact .inr (List.mem_cons_self ..)
        · exact .inl hmem
      · exact .inr (List.mem_cons_of_mem _ hmem)

/-- The key reported is the first that occurred before. -/
theorem ofEntries?_eq_error {es : List (String × Value)} {k : String}
    (h : ofEntries? es = .error k) :
    ∃ front back, es.map (·.1) = front ++ k :: back ∧ k ∈ front ∧ front.Nodup := by
  unfold ofEntries? at h
  split at h
  · next hk =>
    cases h
    obtain ⟨front, back, hes, hmem, hfront, -⟩ := repeatedKey?_eq_some hk
    exact ⟨front, back, hes, hmem.resolve_left nofun, hfront⟩
  · cases h

end Bundle

/-! ## Objects -/

namespace Value

theorem reports_object {α : Type} {names : List String} {ms : List (String × Json)}
    {place : String → String} (hplace : ∀ k, place k = ".".intercalate (names ++ [k]))
    (ih : ∀ m ∈ ms, Reports (names ++ [m.1]) m.2 (ofJson (place m.1) m.2)) (make : Bundle → α) :
    Reports names (.object ms) (do
      let es ← ofMembers place ms
      match Bundle.ofEntries? es with
      | .ok b => .ok (make b)
      | .error key => .error (.duplicateKey (place key))) := by
  have hnone : ∀ {i : Nat} {k : String} {j : Json}, ms[i]? = some (k, j) →
      (∃ v, ofJson (place k) j = .ok v) → ∀ p e, ¬ Fault (names ++ [k]) j p e := fun hi hok =>
    (ih _ (List.mem_of_getElem? hi)).exists_ok_iff.1 hok
  cases hes : ofMembers place ms with
  | error e =>
    obtain ⟨i, k, j, hi, he, hbefore⟩ := ofMembers_eq_error hes
    obtain ⟨p, hfault, hfirst⟩ := (ih _ (List.mem_of_getElem? hi)).eq_error_iff.1 he
    refine ⟨i :: p, .member hi hfault, fun p' f h => ?_⟩
    cases h with
    | value hj => cases hj
    | @member _ _ n _ _ _ _ hn h =>
      rw [precedes_cons_iff]
      rintro (hlt | ⟨rfl, hp⟩)
      · exact hnone hn (hbefore n _ hlt hn) _ _ h
      · cases hi.symm.trans hn
        exact hfirst _ _ h hp
    | repeated =>
      have hlt : i < ms.length := (List.getElem?_eq_some_iff.1 hi).1
      rw [precedes_cons_iff]
      omega
  | ok es =>
    have hmembers := exists_ok_of_ofMembers hes
    have hkeys := keys_of_ofMembers hes
    show Reports names (.object ms) (match Bundle.ofEntries? es with
      | .ok b => .ok (make b)
      | .error key => .error (.duplicateKey (place key)))
    cases hb : Bundle.ofEntries? es with
    | ok b =>
      obtain ⟨hnodup, -⟩ := Bundle.ofEntries?_eq_ok_iff.1 hb
      intro p e h
      cases h with
      | value hj => cases hj
      | member hi h => exact hnone hi (hmembers _ (List.mem_of_getElem? hi)) _ _ h
      | repeated hks hk _ => exact Fault.not_nodup hks hk (hkeys ▸ hnodup)
    | error key =>
      obtain ⟨front, back, hks, hk, hf⟩ := Bundle.ofEntries?_eq_error hb
      rw [hkeys] at hks
      refine ⟨[ms.length], by rw [hplace]; exact .repeated hks hk hf, fun p f h => ?_⟩
      cases h with
      | value hj => cases hj
      | member hi h => exact absurd h (hnone hi (hmembers _ (List.mem_of_getElem? hi)) _ _)
      | repeated =>
        rw [precedes_singleton_iff]
        exact Nat.lt_irrefl _

theorem reports_foreign {α : Type} {names : List String} {j : Json} (h : j.IsForeign) :
    Reports (α := α) names j (.error (.misfit (".".intercalate names) (.value j.describe))) :=
  ⟨[], .value h, fun place _ _ => not_precedes_nil place⟩

/-- A value is read when there is no fault, and else the first fault is reported. -/
theorem reports_ofJson {names : List String} (hne : names ≠ []) (j : Json) :
    Reports names j (ofJson (".".intercalate names) j) := by
  induction j using Json.Tree.induct generalizing names with
  | null => exact reports_foreign (j := .null) trivial
  | bool b => exact reports_foreign (j := .bool b) trivial
  | number n => exact reports_foreign (j := .number n) trivial
  | string t =>
    intro place e h
    cases h with
    | value hj => cases hj
  | array items => exact reports_ofItems names items
  | object ms ih =>
    have hplace : ∀ k, ".".intercalate names ++ "." ++ k = ".".intercalate (names ++ [k]) := fun k => by
      rw [String.intercalate_append_of_ne_nil hne (List.cons_ne_nil _ _), String.intercalate_singleton]
    refine reports_object hplace (fun m hm => ?_) fun b => Value.bundle b.entries
    rw [hplace]
    exact ih m hm (by simp)

end Value

namespace Bundle

theorem reports_ofJson (ms : List (String × Json)) : Reports [] (.object ms) (ofJson (.object ms)) := by
  have hplace : ∀ k, id k = ".".intercalate ([] ++ [k]) := fun k => by simp
  refine Value.reports_object hplace (fun m _ => ?_) id
  rw [hplace]
  exact Value.reports_ofJson (by simp) m.2

theorem ofJson_of_ne_object {j : Json} (h : ∀ ms, j ≠ .object ms) :
    ofJson j = .error (.misfit "<root>" .root) := by
  cases j with
  | object ms => exact absurd rfl (h ms)
  | _ => rfl

/-- A text with the tree `j` is a bundle exactly when `j` is an object and its members lead to nothing but
strings, objects that name each member once, arrays of strings and arrays of choices. Of an object that is
no bundle the first fault in reading order is reported. -/
theorem parse_first_fault {text : String} {j : Json} (h : Json.read? text = some j) :
    ((∃ b, parse text = .ok b) ↔ (∃ ms, j = .object ms) ∧ ∀ u, Json.Leads j u → Json.Fits u) ∧
    ((∀ ms, j ≠ .object ms) → parse text = .error (.misfit "<root>" .root)) ∧
    ((∃ ms, j = .object ms) → ∀ e, parse text = .error e ↔
      ∃ place, Fault [] j place e ∧ ∀ place' f, Fault [] j place' f → ¬ Precedes place' place) ∧
    ∀ names ms place e, Fault names (.object ms) place e →
      Precedes place [ms.length] ∨ ∃ key, place = [ms.length] ∧ e = .duplicateKey key := by
  have hparse : parse text = ofJson j := by
    rw [parse, h]
  rw [hparse]
  by_cases hj : ∃ ms, j = .object ms
  · obtain ⟨ms, rfl⟩ := hj
    have hreports := reports_ofJson ms
    refine ⟨?_, fun hne => absurd rfl (hne ms), fun _ e => hreports.eq_error_iff,
      fun _ _ _ _ => Fault.precedes_closing⟩
    have hexists : (∃ place e, Fault [] (.object ms) place e) ↔
        ∃ u, Json.Leads (.object ms) u ∧ ¬ Json.Fits u := Fault.exists_iff
    have hfits : (∀ place e, ¬ Fault [] (.object ms) place e) ↔
        ∀ u, Json.Leads (.object ms) u → Json.Fits u := by
      simpa using hexists.not
    rw [hreports.exists_ok_iff, hfits]
    exact ⟨fun hall => ⟨⟨ms, rfl⟩, hall⟩, fun hall => hall.2⟩
  · have hroot : ofJson j = .error (.misfit "<root>" .root) :=
      ofJson_of_ne_object fun ms hms => hj ⟨ms, hms⟩
    refine ⟨?_, fun _ => hroot, fun hobject => absurd hobject hj, fun _ _ _ _ => Fault.precedes_closing⟩
    rw [hroot]
    exact ⟨nofun, fun hok => absurd hok.1 hj⟩

/-- An item that is no choice stands before the end of its object, where a name is repeated. -/
theorem parse_first_fault_misfit :
    let j : Json := .object [("a", .array [.array [.string "x"]]), ("a", .string "y")]
    Json.read? j.render = some j ∧
      parse j.render = .error (.misfit "a[0]" (.choice "an array")) := by
  intro j
  have hwordless : j.Wordless := by simp [j]
  have hread : Json.read? j.render = some j := Json.read?_render hwordless (by decide)
  have hitem : ¬ Json.IsChoice (.array [.string "x"]) := by
    rintro ⟨value, label, h⟩
    cases h
  have hitems : ¬ ∀ i ∈ [(.array [.string "x"] : Json)], ∃ t, i = .string t := by simp
  refine ⟨hread, ((parse_first_fault hread).2.2.1 ⟨_, rfl⟩ _).2 ⟨[0, 0], ?_, fun place f h => ?_⟩⟩
  · exact .member rfl (.item hitems rfl hitem)
  · change Fault [] (.object _) place f at h
    cases h with
    | value hj => cases hj
    | repeated => simp [precedes_cons_iff]
    | @member _ _ i _ _ place _ hi h =>
      cases i with
      | succ i => simp [precedes_cons_iff]
      | zero =>
        cases hi
        cases h with
        | value hj => cases hj
        | item => simp [precedes_cons_iff, not_precedes_nil]

end Bundle

end TripLocale
