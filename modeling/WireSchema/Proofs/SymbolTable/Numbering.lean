/-
WireSchema.Proofs.SymbolTable.Numbering — how the constants of an enum are numbered.

`Source.IsNumbering` says which numbers the constants have, place by place: the one written, one
more than the number before, or zero in front. There is exactly one such list
(`isNumbering_iff`), and it is what the build counts up to. The counter cannot overflow: the number
before was checked against the range of the base, which ends far below the greatest integer
(`Symbol.enumValues_ne_enumOverflow`).

Main statement: `Symbol.ofSource_ok_iff_numbering`.
-/
import WireSchema.Proofs.SymbolTable.WellFormed

namespace WireSchema

open WireSchema.Outcome

namespace Source

/-- The numbers of constants: the one written, or else one more than the number before, and zero
where there is none before. -/
structure IsNumbering (constants : List Value) (numbers : List Int) : Prop where
  length_eq : numbers.length = constants.length
  written : ∀ (i : Nat) c n, constants[i]? = some c → c.value = some n → numbers[i]? = some n
  first : ∀ c, constants[0]? = some c → c.value = none → numbers[0]? = some 0
  next : ∀ (i : Nat) c n, constants[i + 1]? = some c → c.value = none → numbers[i]? = some n →
    numbers[i + 1]? = some (n + 1)

/-! ## One numbering -/

/-- The numbers that the constants count up to from the one before. -/
def numbersFrom (last : Int) (constants : List Value) : List Int :=
  (constantsFrom last constants).map (·.value)

@[simp] theorem numbersFrom_nil (last : Int) : numbersFrom last [] = [] := rfl

@[simp] theorem numbersFrom_cons (last : Int) (c : Value) (rest : List Value) :
    numbersFrom last (c :: rest) =
      c.value.getD (last + 1) :: numbersFrom (c.value.getD (last + 1)) rest := rfl

theorem length_numbersFrom (last : Int) (constants : List Value) :
    (numbersFrom last constants).length = constants.length := by
  induction constants generalizing last with
  | nil => rfl
  | cons c rest ih => simp [ih]

theorem getElem?_zero_numbersFrom {last : Int} {constants : List Value} {c : Value}
    (hc : constants[0]? = some c) :
    (numbersFrom last constants)[0]? = some (c.value.getD (last + 1)) := by
  cases constants with
  | nil => simp at hc
  | cons first rest => simp_all

/-- Each number is counted from the one before. -/
theorem getElem?_succ_numbersFrom {last : Int} {constants : List Value} {i : Nat} {c : Value}
    (hc : constants[i + 1]? = some c) : ∃ n, (numbersFrom last constants)[i]? = some n ∧
      (numbersFrom last constants)[i + 1]? = some (c.value.getD (n + 1)) := by
  induction constants generalizing last i with
  | nil => simp at hc
  | cons first rest ih =>
    cases i with
    | zero => simpa using getElem?_zero_numbersFrom (by simpa using hc)
    | succ i => simpa using ih (by simpa using hc)

theorem isNumbering_numbersFrom (constants : List Value) :
    IsNumbering constants (numbersFrom (-1) constants) where
  length_eq := length_numbersFrom (-1) constants
  written i c n hc hn := by
    cases i with
    | zero => simp [getElem?_zero_numbersFrom hc, hn]
    | succ i =>
      obtain ⟨_, _, hnumber⟩ := getElem?_succ_numbersFrom hc
      simpa [hn] using hnumber
  first c hc hn := by simp [getElem?_zero_numbersFrom hc, hn]
  next i c n hc hnone hn := by
    obtain ⟨before, hbefore, hnumber⟩ := getElem?_succ_numbersFrom hc
    obtain rfl := Option.some.inj (hn.symm.trans hbefore)
    simpa [hnone] using hnumber

/-- Two numberings agree place by place. -/
theorem IsNumbering.unique {constants : List Value} {numbers other : List Int}
    (h : IsNumbering constants numbers) (h' : IsNumbering constants other) : other = numbers := by
  refine List.ext_getElem? fun i => ?_
  induction i with
  | zero =>
    cases hc : constants[0]? with
    | none =>
      have hnone : constants.length = 0 := by simpa using hc
      simp [h.length_eq, h'.length_eq, hnone]
    | some c =>
      cases hn : c.value with
      | none => rw [h.first c hc hn, h'.first c hc hn]
      | some n => rw [h.written 0 c n hc hn, h'.written 0 c n hc hn]
  | succ i ih =>
    cases hc : constants[i + 1]? with
    | none =>
      have hle : constants.length ≤ i + 1 := by simpa using hc
      simp [h.length_eq, h'.length_eq, hle]
    | some c =>
      cases hn : c.value with
      | none =>
        have hlt := (List.getElem?_eq_some_iff.mp hc).1
        have hlt' : i < numbers.length := by
          rw [h.length_eq]
          omega
        have hbefore := List.getElem?_eq_getElem hlt'
        rw [h.next i c _ hc hn hbefore, h'.next i c _ hc hn (ih.trans hbefore)]
      | some n => rw [h.written (i + 1) c n hc hn, h'.written (i + 1) c n hc hn]

theorem isNumbering_iff {constants : List Value} {numbers : List Int} :
    IsNumbering constants numbers ↔ numbers = numbersFrom (-1) constants := by
  constructor
  · intro h
    exact (isNumbering_numbersFrom constants).unique h
  · intro h
    exact h ▸ isNumbering_numbersFrom constants

/-- A constant is its name and its number. -/
theorem constantsFrom_eq_zipWith (last : Int) (constants : List Value) :
    constantsFrom last constants =
      List.zipWith Symbol.EnumValue.mk (constants.map (·.name)) (numbersFrom last constants) := by
  induction constants generalizing last with
  | nil => rfl
  | cons c rest ih => simp [constantsFrom, ← ih]

end Source

/-! ## The counter -/

namespace Symbol

/-- The number before a constant is at most the greatest of the range, so there is one more. -/
theorem enumValues_ne_enumOverflow {enum : String} {underlying : Primitive}
    {least greatest last : Int} {done : List EnumValue} {values : List Source.Value}
    (hlast : last < Number.maxInteger) (hgreatest : greatest < Number.maxInteger)
    (other constant : String) :
    enumValues enum underlying least greatest last done values ≠
      .error (.enumOverflow other constant) := by
  induction values generalizing last done with
  | nil => simp [enumValues]
  | cons c rest ih =>
    intro h
    simp only [enumValues, enumValue_eq hlast] at h
    split at h
    · cases h
    split at h
    · cases h
    split at h
    · cases h
    split at h
    · cases h
    · rename_i hrange
      have hle : c.value.getD (last + 1) ≤ greatest := by
        simp only [Bool.or_eq_true, decide_eq_true_eq, not_or] at hrange
        omega
      exact ih (Int.lt_of_le_of_lt hle hgreatest) h

theorem ofEntry_ne_enumOverflow (entry : Source.MetadataEntry) (other constant : String) :
    Metadata.ofEntry entry ≠ .error (.enumOverflow other constant) := by
  intro h
  unfold Metadata.ofEntry at h
  repeat' split at h
  all_goals cases h

/-- No enum is refused because its counter ran out of integers. -/
theorem ofSource_ne_enumOverflow (decl : Source.Enum) (other constant : String) :
    Enum.ofSource decl ≠ .error (.enumOverflow other constant) := by
  intro h
  unfold Enum.ofSource at h
  split at h
  · cases h
  split at h
  · cases h
  rename_i least greatest hrange
  rcases bind_eq_error_iff.mp h with hvalues | ⟨values, _, h⟩
  · exact enumValues_ne_enumOverflow (by decide) (range_lt_maxInteger hrange) other constant hvalues
  rcases bind_eq_error_iff.mp h with hmetadata | ⟨metadata, _, h⟩
  · obtain ⟨entry, _, hentry⟩ := exists_of_mapM_eq_error hmetadata
    exact ofEntry_ne_enumOverflow entry other constant hentry
  · cases h

/-- **Enums.** The constants of an enum have one numbering. With metadata that builds, the enum is
built exactly when its base is an integer primitive with all the numbers in its range, no name is
qualified, and names and numbers are distinct; it then has the names with their numbers, in order.
No enum overflows. -/
theorem ofSource_ok_iff_numbering (decl : Source.Enum) :
    ∃ numbers, (∀ other, Source.IsNumbering decl.values other ↔ other = numbers) ∧
      (∀ metadata, Metadata.ofEntries decl.metadata = .ok metadata →
        ((∃ e, Enum.ofSource decl = .ok e) ↔
          (∃ p : Primitive, p.name = decl.underlying ∧
            (p.typeClass = .int ∨ p.typeClass = .char) ∧ ∀ n ∈ numbers, p.InRange n) ∧
          (∀ c ∈ decl.values, '.' ∉ c.name.toList) ∧ (decl.values.map (·.name)).Nodup ∧
          numbers.Nodup) ∧
        ∀ e, Enum.ofSource decl = .ok e →
          e.name = decl.name ∧ e.underlying.name = decl.underlying ∧ e.metadata = metadata ∧
          e.values = List.zipWith EnumValue.mk (decl.values.map (·.name)) numbers) ∧
      ∀ other constant, Enum.ofSource decl ≠ .error (.enumOverflow other constant) := by
  refine ⟨_, fun _ => Source.isNumbering_iff, fun metadata hmetadata => ⟨?_, ?_⟩,
    ofSource_ne_enumOverflow decl⟩
  · simp only [Source.numbersFrom, List.forall_mem_map]
    constructor
    · intro h
      obtain ⟨e, he⟩ := h
      obtain ⟨hwell, _⟩ := Enum.ofSource_eq_ok_iff.mp he
      exact ⟨hwell.base, hwell.unqualified, hwell.names, hwell.numbers⟩
    · intro h
      obtain ⟨⟨p, hname, hclass, hrange⟩, hpoints, hnames, hnumbers⟩ := h
      refine ⟨⟨decl.name, p, decl.constants, metadata⟩, Enum.ofSource_eq_ok_iff.mpr ⟨?_, ?_⟩⟩
      · exact ⟨⟨p, hname, hclass, hrange⟩, hpoints, hnames, hnumbers⟩
      · exact ⟨rfl, hname, rfl, Metadata.ofEntries_eq_ok_iff.mp hmetadata⟩
  · intro e he
    obtain ⟨_, hmeans⟩ := Enum.ofSource_eq_ok_iff.mp he
    have hentries := Metadata.ofEntries_eq_ok_iff.mpr hmeans.metadata
    refine ⟨hmeans.name, hmeans.underlying, Except.ok.inj (hentries.symm.trans hmetadata), ?_⟩
    exact hmeans.values.trans (Source.constantsFrom_eq_zipWith (-1) decl.values)

/-- A written number between two counted ones. -/
def hueDeclaration : Source.Enum where
  name := "Hue"
  underlying := "ubyte"
  metadata := [⟨"bit_flags", none⟩]
  values := [⟨"Red", none, .start⟩, ⟨"Green", some 254, .start⟩, ⟨"Blue", none, .start⟩]
  pos := .start

theorem hue_ok_numbering : Source.IsNumbering hueDeclaration.values [0, 254, 255] ∧
    ∃ e, Enum.ofSource hueDeclaration = .ok e ∧ e.metadata = [.builtin "bit_flags" none] ∧
      e.values = [⟨"Red", 0⟩, ⟨"Green", 254⟩, ⟨"Blue", 255⟩] := by
  obtain ⟨numbers, hunique, hbuilt, _⟩ := ofSource_ok_iff_numbering hueDeclaration
  have hnumbering := Source.isNumbering_numbersFrom hueDeclaration.values
  obtain rfl := (hunique _).mp hnumbering
  obtain ⟨hiff, hresult⟩ := hbuilt [.builtin "bit_flags" none] (by decide)
  obtain ⟨e, he⟩ := hiff.mpr
    ⟨⟨.ubyte, by decide, by decide, by decide⟩, by decide, by decide, by decide⟩
  obtain ⟨_, _, hmetadata, hvalues⟩ := hresult e he
  exact ⟨hnumbering, e, he, hmetadata, hvalues⟩

end Symbol

end WireSchema
