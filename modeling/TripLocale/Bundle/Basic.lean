/-
Locale bundles: ordered sections of texts, lists and choices under keys.

A bundle is a list of entries in presentation order, and a value under a key is a text, a list of texts,
a list of choices or another section. `Bundle.ofEntries?` builds a bundle and refuses a key that occurs
twice; `Bundle.KeysUnique` says that no section anywhere in a bundle has one.
-/
import TripLocale.Text.Blank
import TripLocale.Text.Split

namespace TripLocale

/-! ## Choices -/

/-- One entry of a select control: the codes sent to the planner, and the label shown. -/
structure Choice where
  value : String
  label : String
deriving DecidableEq, Repr

namespace Choice

/-- The codes of a list with commas: trimmed, and without the empty ones. -/
def codesOf (value : List Char) : List (List Char) :=
  ((Text.splitOn [','] value).map Text.trimBlanks).filter fun code => !code.isEmpty

/-- The codes that the choice stands for. -/
def codes (c : Choice) : List String := (codesOf c.value.toList).map String.ofList

/-- The choice as a list of two: the value at 0, the label at 1. -/
def field? (c : Choice) : Nat → Option String
  | 0 => some c.value
  | 1 => some c.label
  | _ => none

end Choice

/-! ## Values -/

/-- The kinds of value that a path may lead to. -/
inductive ValueKind where
  | text
  | list
  | choices
  | choice
  | bundle
deriving DecidableEq, Repr

/-- The name of a kind in messages. -/
def ValueKind.name : ValueKind → String
  | text => "text"
  | list => "list"
  | choices => "option list"
  | choice => "option pair"
  | bundle => "bundle"

/-- A value under a key. -/
inductive Value where
  /-- A text, which may hold markup. -/
  | text (text : String)
  /-- Texts in order. -/
  | list (items : List String)
  /-- Choices in the order in which they are shown. -/
  | choices (choices : List Choice)
  /-- A section with its entries. -/
  | bundle (entries : List (String × Value))

/-- A section at the root: keys and values in presentation order. -/
structure Bundle where
  entries : List (String × Value)

namespace Value

/-- The kind of a value. -/
def kind : Value → ValueKind
  | text _ => .text
  | list _ => .list
  | choices _ => .choices
  | bundle _ => .bundle

/-- The text, if the value is one. -/
def text? : Value → Option String
  | text t => some t
  | _ => none

/-- The items, if the value is a list. -/
def list? : Value → Option (List String)
  | list items => some items
  | _ => none

/-- The choices, if the value is a list of them. -/
def choices? : Value → Option (List Choice)
  | choices cs => some cs
  | _ => none

/-- The section, if the value is one. -/
def bundle? : Value → Option Bundle
  | bundle entries => some ⟨entries⟩
  | _ => none

/-! ## Equality -/

mutual

/-- Whether two values are the same, entry for entry. -/
def decEq : (v w : Value) → Decidable (v = w)
  | text s, text t => if h : s = t then isTrue (h ▸ rfl) else isFalse fun e => h (text.inj e)
  | list s, list t => if h : s = t then isTrue (h ▸ rfl) else isFalse fun e => h (list.inj e)
  | choices s, choices t =>
    if h : s = t then isTrue (h ▸ rfl) else isFalse fun e => h (choices.inj e)
  | bundle s, bundle t =>
    match decEqEntries s t with
    | isTrue h => isTrue (h ▸ rfl)
    | isFalse h => isFalse fun e => h (bundle.inj e)
  | text _, list _ | text _, choices _ | text _, bundle _ => isFalse nofun
  | list _, text _ | list _, choices _ | list _, bundle _ => isFalse nofun
  | choices _, text _ | choices _, list _ | choices _, bundle _ => isFalse nofun
  | bundle _, text _ | bundle _, list _ | bundle _, choices _ => isFalse nofun

/-- Whether two lists of entries are the same. -/
def decEqEntries : (es fs : List (String × Value)) → Decidable (es = fs)
  | [], [] => isTrue rfl
  | [], _ :: _ | _ :: _, [] => isFalse nofun
  | (k, v) :: es, (l, w) :: fs =>
    if hk : k = l then
      match decEq v w, decEqEntries es fs with
      | isTrue hv, isTrue he => isTrue (by rw [hk, hv, he])
      | isFalse hv, _ => isFalse fun e => hv (Prod.mk.inj (List.cons.inj e).1).2
      | _, isFalse he => isFalse fun e => he (List.cons.inj e).2
    else isFalse fun e => hk (Prod.mk.inj (List.cons.inj e).1).1

end

instance : DecidableEq Value := decEq

/-! ## Unique keys -/

mutual

/-- No section in the value has a key twice. -/
def KeysUnique : Value → Prop
  | bundle entries => (entries.map (·.1)).Nodup ∧ EntriesUnique entries
  | _ => True

/-- No section in the value of any entry has a key twice. -/
def EntriesUnique : List (String × Value) → Prop
  | [] => True
  | (_, v) :: es => KeysUnique v ∧ EntriesUnique es

end

end Value

deriving instance DecidableEq for Bundle

/-! ## Entries -/

namespace Bundle

/-- No section in the bundle, itself included, has a key twice. -/
def KeysUnique (b : Bundle) : Prop := (Value.bundle b.entries).KeysUnique

/-- The number of entries. -/
def length (b : Bundle) : Nat := b.entries.length

/-- The keys in presentation order. -/
def keys (b : Bundle) : List String := b.entries.map (·.1)

/-- The value under a key. -/
def child? (b : Bundle) (key : String) : Option Value :=
  (b.entries.find? (·.1 == key)).map (·.2)

/-- The first key that stands among `before` or is repeated. -/
def repeatedKey? (before : List String) : List (String × Value) → Option String
  | [] => none
  | (k, _) :: es => if k ∈ before then some k else repeatedKey? (k :: before) es

/-- The bundle with these entries, or else the first key that occurred before. -/
def ofEntries? (entries : List (String × Value)) : Except String Bundle :=
  match repeatedKey? [] entries with
  | some key => .error key
  | none => .ok ⟨entries⟩

/-- A key is repeated unless all are distinct and none stands among those before. -/
theorem repeatedKey?_eq_none_iff (before : List String) (es : List (String × Value)) :
    repeatedKey? before es = none ↔
      (es.map (·.1)).Nodup ∧ ∀ k ∈ es.map (·.1), k ∉ before := by
  induction es generalizing before with
  | nil => simp [repeatedKey?]
  | cons e es ih =>
    obtain ⟨k, v⟩ := e
    by_cases hk : k ∈ before
    · simp [repeatedKey?, hk]
    -- `k` joins the keys before, so the rest must avoid it too, which is what `Nodup` asks
    · simp only [repeatedKey?, hk, if_false, ih, List.map_cons, List.nodup_cons, List.mem_cons,
        not_or, forall_eq_or_imp, not_false_eq_true, true_and]
      constructor
      · rintro ⟨hn, ha⟩
        exact ⟨⟨fun h => (ha k h).1 rfl, hn⟩, fun x hx => (ha x hx).2⟩
      · rintro ⟨⟨hnot, hn⟩, ha⟩
        exact ⟨hn, fun x hx => ⟨fun e => hnot (e ▸ hx), ha x hx⟩⟩

/-- Entries make a bundle exactly when their keys are distinct. -/
theorem ofEntries?_eq_ok_iff {entries : List (String × Value)} {b : Bundle} :
    ofEntries? entries = .ok b ↔ (entries.map (·.1)).Nodup ∧ b = ⟨entries⟩ := by
  have h := repeatedKey?_eq_none_iff [] entries
  unfold ofEntries?
  split
  · next k hk => simp [hk] at h ⊢; exact fun hn => absurd hn h
  · next hk => simp [hk] at h ⊢; simp [h, eq_comm]

end Bundle

end TripLocale
