import Mathlib.Algebra.Ring.Int.Defs
import SlotWallet.Node.Envelope

/-!
# What a body says

A body is read exactly if it is a document with the two fields of an answer, each of
them left out, null or of its form (`read?_iff`).
-/

namespace SlotWallet.Envelope

open Json

/-- What a document has for two fields: an object with readable keys has them by name, an
array of two has them in order. -/
inductive Gives (first second : String) : Written → List Written → List Written → Prop
  | object {members : List (Option String × Written)} (h : keysReadable members = true) :
    Gives first second (.object members) (valuesOf first members) (valuesOf second members)
  | array (a b : Written) : Gives first second (.array [a, b]) [a] [b]

/-- A field that may be left out. Null is as good as that, and two values are too many. -/
inductive Holds {α : Type} (P : Written → α → Prop) : List Written → Option α → Prop
  | absent : Holds P [] none
  | null : Holds P [.null] none
  | value {w : Written} {a : α} (hw : w ≠ .null) (ha : P w a) : Holds P [w] (some a)

def IsValue (w : Written) (value : Json) : Prop := w.toJson? (maxDepth - 1) = some value

inductive IsFault (w : Written) : Fault → Prop
  | intro {number : Written} {code : Int} {message : String}
    (hgives : Gives "code" "message" w [number] [.string (some message)])
    (hcode : number.toJson? 0 = some (.int code)) (hlow : -2 ^ 63 ≤ code) (hhigh : code < 2 ^ 63) :
    IsFault w ⟨code, message⟩

/-- `body` is a document that says what `b` holds. -/
inductive Says (body : String) (b : Body) : Prop
  | intro {w : Written} {results errors : List Written}
    (hread : Written.read? body.toList = some w) (hgives : Gives "result" "error" w results errors)
    (hresult : Holds IsValue results b.result) (herror : Holds IsFault errors b.error) : Says body b

-- ---------------------------------------------------------------------------
-- Fields
-- ---------------------------------------------------------------------------

theorem gives_object {first second : String} {members : List (Option String × Written)}
    {a b : List Written} :
    Gives first second (.object members) a b ↔
      keysReadable members = true ∧ valuesOf first members = a ∧ valuesOf second members = b := by
  constructor
  · rintro ⟨h⟩
    exact ⟨h, rfl, rfl⟩
  · rintro ⟨h, rfl, rfl⟩
    exact .object h

theorem gives_array {first second : String} {elements a b : List Written} :
    Gives first second (.array elements) a b ↔ ∃ v w, elements = [v, w] ∧ a = [v] ∧ b = [w] := by
  constructor
  · rintro ⟨⟩
    exact ⟨_, _, rfl, rfl, rfl⟩
  · rintro ⟨v, w, rfl, rfl, rfl⟩
    exact .array v w

theorem isNull_iff {w : Written} : isNull w = true ↔ w = .null := by
  cases w <;> simp [isNull]

theorem readMember?_iff {α : Type} {P : Written → α → Prop} {read : Written → Option α}
    (hread : ∀ w a, read w = some a ↔ P w a) {values : List Written}
    {found : Option α} :
    readMember? (fun w => if isNull w then some none else (read w).map some) values = some found ↔
      Holds P values found := by
  constructor
  · intro h
    match values with
    | [] =>
      obtain rfl := Option.some.inj h
      exact .absent
    | [w] =>
      by_cases hnull : isNull w = true
      · rw [readMember?, if_pos hnull] at h
        obtain rfl := Option.some.inj h
        rw [isNull_iff.mp hnull]
        exact .null
      · rw [readMember?, if_neg hnull, Option.map_eq_some_iff] at h
        obtain ⟨a, ha, rfl⟩ := h
        have hw : w ≠ .null := fun hw => hnull (isNull_iff.mpr hw)
        exact .value hw ((hread w a).mp ha)
    | _ :: _ :: _ => simp [readMember?] at h
  · rintro (_ | _ | ⟨hw, ha⟩)
    · rfl
    · rfl
    · have hnull := mt isNull_iff.mp hw
      simp [readMember?, hnull, (hread _ _).mpr ha]

-- ---------------------------------------------------------------------------
-- Faults
-- ---------------------------------------------------------------------------

theorem low_of_numeral {n : Numeral} {code : Int} (h : n.toJson? = some (.int code)) :
    -2 ^ 63 ≤ code := by
  have hmax : maxSigned = 2 ^ 63 - 1 := by decide
  simp only [Numeral.toJson?] at h
  split at h
  · split at h
    · cases h
      omega
    · split at h
      · cases h
        omega
      · simp at h
  · simp at h

theorem low_of_written {w : Written} {depth : Nat} {code : Int}
    (h : w.toJson? depth = some (.int code)) : -2 ^ 63 ≤ code := by
  cases w with
  | number n => exact low_of_numeral h
  | string text => cases text <;> simp [Written.toJson?] at h
  | array elements =>
    simp only [Written.toJson?] at h
    split at h <;> simp at h
  | object members =>
    simp only [Written.toJson?] at h
    split at h <;> simp [ofMembers] at h
  | _ => simp [Written.toJson?] at h

theorem readCode?_iff {w : Written} {code : Int} :
    readCode? w = some code ↔ w.toJson? 0 = some (.int code) ∧ -2 ^ 63 ≤ code ∧ code < 2 ^ 63 := by
  have hmax : (maxSigned : Int) = 2 ^ 63 - 1 := by decide
  constructor
  · intro h
    simp only [readCode?] at h
    split at h
    · rename_i n hn
      split at h
      · obtain rfl := Option.some.inj h
        exact ⟨hn, low_of_written hn, by omega⟩
      · cases h
    · cases h
  · rintro ⟨hint, -, hhigh⟩
    simp only [readCode?, hint]
    exact if_pos (by omega)

theorem readText?_iff {w : Written} {text : String} :
    readText? w = some text ↔ w = .string (some text) := by
  cases w <;> simp [readText?]

theorem mkFault_eq_some {code? : Option Int} {message? : Option String} {fault : Fault} :
    (do pure (⟨← code?, ← message?⟩ : Fault)) = some fault ↔
      code? = some fault.code ∧ message? = some fault.message := by
  obtain ⟨code, message⟩ := fault
  cases code? <;> cases message? <;> simp

theorem readFault?_eq_some {w : Written} {fault : Fault} :
    readFault? w = some fault ↔
      ∃ number text, Gives "code" "message" w [number] [text] ∧
        readCode? number = some fault.code ∧ readText? text = some fault.message := by
  constructor
  · intro h
    unfold readFault? at h
    split at h
    · split at h
      · rename_i hkeys
        split at h
        · rename_i number text hnumber htext
          exact ⟨number, text, gives_object.mpr ⟨hkeys, hnumber, htext⟩, mkFault_eq_some.mp h⟩
        · cases h
      · cases h
    · exact ⟨_, _, .array _ _, mkFault_eq_some.mp h⟩
    · cases h
  · rintro ⟨number, text, hgives, hread⟩
    cases w with
    | object members =>
      obtain ⟨hkeys, hnumber, htext⟩ := gives_object.mp hgives
      simp only [readFault?, hkeys, hnumber, htext, if_true]
      exact mkFault_eq_some.mpr hread
    | array elements =>
      obtain ⟨_, _, rfl, ⟨⟩, ⟨⟩⟩ := gives_array.mp hgives
      exact mkFault_eq_some.mpr hread
    | _ => cases hgives

theorem readFault?_iff {w : Written} {fault : Fault} :
    readFault? w = some fault ↔ IsFault w fault := by
  rw [readFault?_eq_some]
  constructor
  · rintro ⟨number, text, hgives, hcode, htext⟩
    obtain ⟨hint, hlow, hhigh⟩ := readCode?_iff.mp hcode
    obtain rfl := readText?_iff.mp htext
    exact .intro hgives hint hlow hhigh
  · rintro ⟨hgives, hint, hlow, hhigh⟩
    exact ⟨_, _, hgives, readCode?_iff.mpr ⟨hint, hlow, hhigh⟩, readText?_iff.mpr rfl⟩

-- ---------------------------------------------------------------------------
-- Bodies
-- ---------------------------------------------------------------------------

theorem holds_result {values : List Written} {result : Option Json} :
    readMember? readResult? values = some result ↔ Holds IsValue values result :=
  readMember?_iff fun _ _ => Iff.rfl

theorem holds_error {values : List Written} {error : Option Fault} :
    readMember? readError? values = some error ↔ Holds IsFault values error :=
  readMember?_iff fun _ _ => readFault?_iff

theorem mkBody_eq_some {result? : Option (Option Json)} {error? : Option (Option Fault)}
    {b : Body} :
    (do pure (⟨← result?, ← error?⟩ : Body)) = some b ↔
      result? = some b.result ∧ error? = some b.error := by
  obtain ⟨result, error⟩ := b
  cases result? <;> cases error? <;> simp

theorem ofWritten?_iff {w : Written} {b : Body} :
    ofWritten? w = some b ↔
      ∃ results errors, Gives "result" "error" w results errors ∧
        Holds IsValue results b.result ∧ Holds IsFault errors b.error := by
  simp only [← holds_result, ← holds_error]
  constructor
  · intro h
    unfold ofWritten? at h
    split at h
    · split at h
      · rename_i hkeys
        exact ⟨_, _, .object hkeys, mkBody_eq_some.mp h⟩
      · cases h
    · exact ⟨_, _, .array _ _, mkBody_eq_some.mp h⟩
    · cases h
  · rintro ⟨results, errors, hgives, hread⟩
    cases w with
    | object members =>
      obtain ⟨hkeys, rfl, rfl⟩ := gives_object.mp hgives
      simp only [ofWritten?, hkeys, if_true]
      exact mkBody_eq_some.mpr hread
    | array elements =>
      obtain ⟨_, _, rfl, rfl, rfl⟩ := gives_array.mp hgives
      exact mkBody_eq_some.mpr hread
    | _ => cases hgives

theorem read?_iff {body : String} {b : Body} : read? body = some b ↔ Says body b := by
  simp only [read?, Option.bind_eq_bind, Option.bind_eq_some_iff, ofWritten?_iff]
  constructor
  · rintro ⟨w, hread, results, errors, hgives, hresult, herror⟩
    exact .intro hread hgives hresult herror
  · rintro ⟨hread, hgives, hresult, herror⟩
    exact ⟨_, hread, _, _, hgives, hresult, herror⟩

theorem outcome_of_says {body : String} {b : Body} :
    Says body b →
    outcome body =
      match b with
      | { error := some fault, .. } => .error (.rpc fault.code fault.message)
      | { result := some value, .. } => .ok value
      | _ => .error (.protocol .missingResult) := by
  intro h
  rw [outcome, read?_iff.mpr h]
  obtain ⟨result, error⟩ := b
  cases error <;> cases result <;> rfl

theorem outcome_of_not_says {body : String} (h : ∀ b, ¬ Says body b) :
    outcome body = .error (.protocol .unparseable) := by
  have hnone : read? body = none :=
    Option.eq_none_iff_forall_ne_some.mpr fun b hb => h b (read?_iff.mp hb)
  simp only [outcome, hnone]
  rfl

end SlotWallet.Envelope
