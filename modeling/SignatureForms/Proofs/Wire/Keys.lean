import SignatureForms.Proofs.Naming.Numerals
import SignatureForms.Wire.Declaration

/-!
# Keys of declarations

The name of a declaration is put together from a scope, a word and a number. Scopes and the names of
parameters are free, so a scope may itself end like a key, as in `a_param1`. This module shows that
a key can be taken apart nevertheless: its number is what follows the last character that is no
digit, and its word is what follows the last underscore before that.

The module introduces:

* `IsPlainWord word` — the word holds neither underscores nor digits;
* `WireKey` — the parts of a key, and `WireKey.text`, the key that they make;
* `keyNumber? scope word name` — the number of a key that is in the scope and has the word.

## Main results

* `numberedKey_inj`: a numbered key determines its scope, its word and its number;
* `WireKey.text_inj`: so does every key that a declaration can have.
-/

namespace SignatureForms

/-! ## Cutting texts -/

/-- A list is cut in one way only into a start whose members have a property and a rest that does
not start with such a member. -/
theorem append_inj_of_forall {α : Type} {p : α → Prop} {front back front' back' : List α}
    (hfront : ∀ a ∈ front, p a) (hback : ∀ a ∈ back.head?, ¬ p a)
    (hfront' : ∀ a ∈ front', p a) (hback' : ∀ a ∈ back'.head?, ¬ p a)
    (h : front ++ back = front' ++ back') : front = front' ∧ back = back' := by
  induction front generalizing front' with
  | nil =>
    cases front' with
    | nil => exact ⟨rfl, h⟩
    | cons a rest =>
      rw [List.nil_append] at h
      exact absurd (hfront' a List.mem_cons_self) (hback a (by rw [h]; rfl))
  | cons a rest ih =>
    cases front' with
    | nil =>
      rw [List.nil_append] at h
      exact absurd (hfront a List.mem_cons_self) (hback' a (by rw [← h]; rfl))
    | cons b rest' =>
      rw [List.cons_append, List.cons_append, List.cons.injEq] at h
      rw [List.forall_mem_cons] at hfront hfront'
      obtain ⟨rfl, hrest⟩ := h
      obtain ⟨rfl, rfl⟩ := ih hfront.2 hfront'.2 hrest
      exact ⟨rfl, rfl⟩

/-- A text is cut in one way only before the digits at its end. -/
theorem append_digits_inj {front digits front' digits' : List Char}
    (hfront : ∀ c ∈ front.getLast?, ¬ c.isDigit = true) (hdigits : ∀ c ∈ digits, c.isDigit = true)
    (hfront' : ∀ c ∈ front'.getLast?, ¬ c.isDigit = true)
    (hdigits' : ∀ c ∈ digits', c.isDigit = true) (h : front ++ digits = front' ++ digits') :
    front = front' ∧ digits = digits' := by
  have hreverse := congrArg List.reverse h
  rw [List.reverse_append, List.reverse_append] at hreverse
  have hcut := append_inj_of_forall (p := fun c => c.isDigit = true) (by simpa using hdigits)
    (by simpa using hfront) (by simpa using hdigits') (by simpa using hfront') hreverse
  exact ⟨List.reverse_inj.1 hcut.2, List.reverse_inj.1 hcut.1⟩

/-! ## Words in scopes -/

/-- The word holds neither underscores nor digits. -/
def IsPlainWord (word : String) : Prop :=
  ∀ c ∈ word.toList, c ≠ '_' ∧ c.isDigit = false

instance (word : String) : Decidable (IsPlainWord word) :=
  List.decidableBAll (fun c => c ≠ '_' ∧ c.isDigit = false) word.toList

/-- A word in the outermost scope is itself; in any other it follows the scope and an underscore. -/
theorem toList_scopedKey (scope word : String) :
    (scopedKey scope word).toList =
      (if scope = "" then [] else scope.toList ++ ['_']) ++ word.toList := by
  unfold scopedKey
  by_cases hscope : scope = ""
  · subst hscope
    simp
  · simp [hscope]

/-- What a scope puts before its keys determines the scope. -/
theorem scope_inj {scope scope' : String}
    (h : (if scope = "" then [] else scope.toList ++ ['_']) =
      if scope' = "" then [] else scope'.toList ++ ['_']) : scope = scope' := by
  split at h <;> split at h
  · next hempty hempty' => rw [hempty, hempty']
  · exact absurd h.symm (List.append_ne_nil_of_right_ne_nil _ (by simp))
  · exact absurd h (List.append_ne_nil_of_right_ne_nil _ (by simp))
  · exact String.toList_inj.1 (List.append_cancel_right h)

/-- A plain word and its scope can be told from the key: the word is what follows the last
underscore. -/
theorem scopedKey_inj {scope word scope' word' : String} (hword : IsPlainWord word)
    (hword' : IsPlainWord word') :
    scopedKey scope word = scopedKey scope' word' ↔ scope = scope' ∧ word = word' := by
  refine ⟨fun h => ?_, fun ⟨hscope, hsame⟩ => by rw [hscope, hsame]⟩
  have hchars := congrArg (fun key => key.toList.reverse) h
  simp only [toList_scopedKey, List.reverse_append] at hchars
  have hunderscore (scope : String) :
      ∀ c ∈ (if scope = "" then [] else scope.toList ++ ['_']).reverse.head?, ¬ c ≠ '_' := by
    split <;> simp
  have hplain {word : String} (hword : IsPlainWord word) : ∀ c ∈ word.toList.reverse, c ≠ '_' :=
    fun c hc => (hword c (List.mem_reverse.1 hc)).1
  obtain ⟨hsame, hscope⟩ := append_inj_of_forall (hplain hword) (hunderscore scope)
    (hplain hword') (hunderscore scope') hchars
  exact ⟨scope_inj (List.reverse_inj.1 hscope), String.toList_inj.1 (List.reverse_inj.1 hsame)⟩

/-- Different names stand for different scopes inside one scope. -/
theorem scopedKey_right_inj {scope name name' : String} :
    scopedKey scope name = scopedKey scope name' ↔ name = name' := by
  refine ⟨fun h => ?_, fun h => by rw [h]⟩
  have hchars := congrArg String.toList h
  rw [toList_scopedKey, toList_scopedKey] at hchars
  exact String.toList_inj.1 (List.append_cancel_left hchars)

/-- A scope inside another one is not that scope. -/
theorem scopedKey_ne_self (scope : String) {name : String} (h : name ≠ "") :
    scopedKey scope name ≠ scope := by
  intro hself
  have hlength := congrArg String.length hself
  have hname : 0 < name.length :=
    Nat.pos_of_ne_zero fun hzero => h (String.length_eq_zero_iff.1 hzero)
  unfold scopedKey at hlength
  split at hlength
  · next hempty =>
    rw [String.isEmpty_iff.1 hempty] at hlength
    exact Nat.ne_of_gt hname hlength
  · rw [String.length_append, String.length_append] at hlength
    omega

/-! ## Numbered keys -/

/-- A numbered key is the key of its word with the digits of its number. -/
theorem toList_numberedKey (scope word : String) (number : Nat) :
    (numberedKey scope word number).toList =
      (scopedKey scope word).toList ++ Nat.toDigits 10 number := by
  rw [numberedKey, toList_scopedKey, toList_scopedKey, String.toList_append,
    Naming.toList_toString, List.append_assoc]

/-- A key ends with no digit before its number. -/
theorem not_isDigit_of_mem_getLast?_scopedKey (scope : String) {word : String}
    (hword : IsPlainWord word) :
    ∀ c ∈ (scopedKey scope word).toList.getLast?, ¬ c.isDigit = true := by
  intro c hc
  rw [toList_scopedKey, List.getLast?_append] at hc
  cases hlast : word.toList.getLast? with
  | some last =>
    rw [hlast] at hc
    cases hc
    simp [(hword c (List.mem_of_getLast? hlast)).2]
  | none =>
    -- without a word the key ends with the underscore after its scope
    rw [hlast, Option.none_or] at hc
    split at hc
    · cases hc
    · rw [List.getLast?_concat] at hc
      cases hc
      decide

/-- A numbered key determines its scope, its word and its number. -/
theorem numberedKey_inj {scope word scope' word' : String} {number number' : Nat}
    (hword : IsPlainWord word) (hword' : IsPlainWord word') :
    numberedKey scope word number = numberedKey scope' word' number' ↔
      scope = scope' ∧ word = word' ∧ number = number' := by
  refine ⟨fun h => ?_, fun ⟨hscope, hsame, hnumber⟩ => by rw [hscope, hsame, hnumber]⟩
  have hchars := congrArg String.toList h
  rw [toList_numberedKey, toList_numberedKey] at hchars
  have hdigits (n : Nat) : ∀ c ∈ Nat.toDigits 10 n, c.isDigit = true :=
    fun _ hc => Nat.isDigit_of_mem_toDigits (by decide) (by decide) hc
  obtain ⟨hkey, hnumber⟩ := append_digits_inj
    (not_isDigit_of_mem_getLast?_scopedKey scope hword) (hdigits number)
    (not_isDigit_of_mem_getLast?_scopedKey scope' hword') (hdigits number') hchars
  obtain ⟨hscope, hsame⟩ := (scopedKey_inj hword hword').1 (String.toList_inj.1 hkey)
  exact ⟨hscope, hsame, Naming.toDigits_inj.1 hnumber⟩

/-- The number of a key that is in the scope and has the word, if the name is such a key. -/
def keyNumber? (scope word name : String) : Option Nat :=
  let number := Nat.ofDigitChars 10 (name.toList.drop (scopedKey scope word).length) 0
  if name = numberedKey scope word number then some number else none

/-- A name has a number just if it is the key with that number. -/
theorem keyNumber?_eq_some_iff {scope word name : String} {number : Nat} :
    keyNumber? scope word name = some number ↔ name = numberedKey scope word number := by
  simp only [keyNumber?, Option.ite_none_right_eq_some, Option.some.injEq]
  constructor
  · rintro ⟨hname, hnumber⟩
    rwa [hnumber] at hname
  · rintro rfl
    -- what is left of the key behind scope and word are the digits of its number
    have hread : Nat.ofDigitChars 10
        ((numberedKey scope word number).toList.drop (scopedKey scope word).length) 0 = number := by
      rw [toList_numberedKey, ← String.length_toList, List.drop_left, Nat.ofDigitChars_ten_toDigits]
    rw [hread]
    exact ⟨rfl, rfl⟩

example : keyNumber? "a" "param" "a_param12" = some 12 := by decide

/-! ## Keys of a wire -/

/-- The words of numbered keys. -/
def wireWords : List String := ["param", "paramType", "dataType", "unionMember"]

theorem isPlainWord_of_mem_wireWords : ∀ word ∈ wireWords, IsPlainWord word := by
  decide

/-- The parts of the name of a declaration. -/
inductive WireKey where
  /-- A numbered key. -/
  | numbered (scope word : String) (number : Nat)
  /-- The key of the name of a record. -/
  | recordName (scope : String) (number : Nat)
deriving DecidableEq, Repr

namespace WireKey

/-- The name that the parts make. -/
def text : WireKey → String
  | numbered scope word number => numberedKey scope word number
  | recordName scope number => numberedKey scope "param" number ++ "_recordName"

/-- The scope of a key. -/
def scope : WireKey → String
  | numbered scope .. => scope
  | recordName scope _ => scope

/-- The number of a key. -/
def number : WireKey → Nat
  | numbered _ _ number => number
  | recordName _ number => number

/-- The word of a numbered key is plain. -/
def IsPlain : WireKey → Prop
  | numbered _ word _ => IsPlainWord word
  | recordName .. => True

/-- The word of a numbered key is one of a wire. -/
def IsWire : WireKey → Prop
  | numbered _ word _ => word ∈ wireWords
  | recordName .. => True

theorem IsWire.isPlain {key : WireKey} (h : key.IsWire) : key.IsPlain := by
  cases key with
  | numbered scope word number => exact isPlainWord_of_mem_wireWords word h
  | recordName scope number => trivial

/-- No numbered key is the key of the name of a record: it ends with a digit. -/
theorem numberedKey_ne_recordName (scope word scope' : String) (number number' : Nat) :
    numberedKey scope word number ≠ (recordName scope' number').text := by
  intro h
  have hlast := congrArg (fun name => name.toList.getLast?) h
  simp only [text, toList_numberedKey, String.toList_append, List.getLast?_append,
    List.getLast?_eq_some_getLast Nat.toDigits_ne_nil] at hlast
  have hdigit := Nat.isDigit_of_mem_toDigits (by decide) (by decide)
    (List.getLast_mem (Nat.toDigits_ne_nil (n := number) (b := 10)))
  have hletter : "_recordName".toList.getLast? = some 'e' := by decide
  rw [hletter, Option.some_or, Option.some_or, Option.some.injEq] at hlast
  rw [hlast] at hdigit
  exact absurd hdigit (by decide)

/-- A key with a plain word determines its parts. -/
theorem text_inj {key key' : WireKey} (h : key.IsPlain) (h' : key'.IsPlain) :
    key.text = key'.text ↔ key = key' := by
  refine ⟨fun htext => ?_, fun hsame => by rw [hsame]⟩
  cases key with
  | numbered scope word number =>
    cases key' with
    | numbered scope' word' number' =>
      obtain ⟨rfl, rfl, rfl⟩ := (numberedKey_inj h h').1 htext
      rfl
    | recordName scope' number' =>
      exact absurd htext (numberedKey_ne_recordName scope word scope' number number')
  | recordName scope number =>
    cases key' with
    | numbered scope' word' number' =>
      exact absurd htext.symm (numberedKey_ne_recordName scope' word' scope number' number)
    | recordName scope' number' =>
      have hkey := String.toList_inj.2 htext
      rw [text, text, String.toList_append, String.toList_append] at hkey
      have hparam : IsPlainWord "param" := by decide
      obtain ⟨rfl, -, rfl⟩ := (numberedKey_inj hparam hparam).1
        (String.toList_inj.1 (List.append_cancel_right hkey))
      rfl

end WireKey

end SignatureForms
