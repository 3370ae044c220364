/-
What cannot be read or written is reported.

Whatever is wrong with a text or a value, the errors that reading or writing it ends with are
never empty: a caller that finds no errors has a result.
-/
import CpuPrefetch.Lib.Fallible
import CpuPrefetch.Proofs.Protocol.GrammarTokens
import CpuPrefetch.Proofs.Protocol.Values

namespace CpuPrefetch.Protocol.Json

open Fallible

section Failures

variable {T : Type}

theorem utf8Failure_reports (message : String) :
    (utf8Failure message : Result T) ≠ .error [] := by
  unfold utf8Failure
  exact nofun

theorem parseFailure_reports (path message : String) :
    (parseFailure path message : Result T) ≠ .error [] := by
  unfold parseFailure
  exact nofun

theorem unicodeFailure_reports (path message : String) :
    (unicodeFailure path message : Result T) ≠ .error [] := by
  unfold unicodeFailure
  exact nofun

theorem stringFailure_reports (path message : String) :
    (stringFailure path message : Result T) ≠ .error [] := by
  unfold stringFailure
  exact nofun

end Failures

/-! ### Strings -/

theorem decodeSequence_reports (bits : UInt32) (length : Nat) (following : List UInt8) :
    decodeSequence bits length following ≠ .error [] := by
  unfold decodeSequence
  split
  · exact utf8Failure_reports _
  · split
    · exact utf8Failure_reports _
    · exact nofun

theorem decodeUtf8_reports (text : Text) : decodeUtf8 text ≠ .error [] := by
  fun_induction decodeUtf8 text
  -- Either it fails here, or it goes on with the sequence and what follows it.
  all_goals first
    | exact utf8Failure_reports _
    | refine bind_ne_error (decodeSequence_reports _ _ _) fun _ => ?_
      refine bind_ne_error ?_ fun _ => nofun
      assumption
    | exact nofun

theorem finishString_reports (path : String) (output rest : Text) :
    finishString path output rest ≠ .error [] := by
  unfold finishString
  split
  · rename_i errors herrors
    intro h
    have hempty : errors = [] := by
      cases errors with
      | nil => rfl
      | cons error errors => cases h
    rw [hempty] at herrors
    exact decodeUtf8_reports output herrors
  · exact nofun

theorem parseString_reports (path : String) (output input : Text) :
    parseString path output input ≠ .error [] := by
  fun_induction parseString path output input
  -- A string ends, or is not one, or goes on after this byte or this escape.
  all_goals first
    | exact finishString_reports _ _ _
    | exact stringFailure_reports _ _
    | exact unicodeFailure_reports _ _
    | assumption

/-! ### Numbers -/

theorem convertNumber_reports (conv : CharConv) (path : String) (negative binary64 : Bool)
    (digits lexical : Text) :
    convertNumber conv path negative binary64 digits lexical ≠ .error [] := by
  unfold convertNumber
  repeat' split
  all_goals exact nofun

theorem parseInteger_reports (path : String) (input : Text) :
    parseInteger path input ≠ .error [] := by
  unfold parseInteger
  repeat' split
  all_goals first
    | exact parseFailure_reports _ _
    | exact nofun

theorem parseDigits_reports (path message : String) (input : Text) :
    parseDigits path message input ≠ .error [] := by
  unfold parseDigits
  split
  · exact nofun
  · exact parseFailure_reports _ _

theorem parseFraction_reports (path : String) (input : Text) :
    parseFraction path input ≠ .error [] := by
  unfold parseFraction
  split
  · exact bind_ne_error (parseDigits_reports _ _ _) fun _ => nofun
  · exact nofun

theorem parseExponent_reports (path : String) (input : Text) :
    parseExponent path input ≠ .error [] := by
  unfold parseExponent
  split
  · exact nofun
  · split
    · exact bind_ne_error (parseDigits_reports _ _ _) fun _ => nofun
    · exact nofun

theorem parseNumber_reports (conv : CharConv) (path : String) (input : Text) :
    parseNumber conv path input ≠ .error [] := by
  unfold parseNumber
  refine bind_ne_error (parseInteger_reports _ _) fun _ => ?_
  refine bind_ne_error (parseFraction_reports _ _) fun _ => ?_
  refine bind_ne_error (parseExponent_reports _ _) fun _ => ?_
  exact bind_ne_error (convertNumber_reports _ _ _ _ _ _) fun _ => nofun

/-! ### Values -/

theorem parseLiteral_reports (literal : Text) (value : Value) (path : String) (input : Text) :
    parseLiteral literal value path input ≠ .error [] := by
  unfold parseLiteral
  split
  · exact nofun
  · exact parseFailure_reports _ _

/-- What this much fuel reads, and what the two loops read with it. -/
structure FuelReports (conv : CharConv) (fuel : Nat) : Prop where
  value : ∀ path input, parseValue conv fuel path input ≠ .error []
  elements : ∀ path index input, parseElements conv fuel path index input ≠ .error []
  members : ∀ path object input, parseMembers conv fuel path object input ≠ .error []

variable {conv : CharConv} {fuel : Nat}

theorem parseValue_reports (h : FuelReports conv fuel) (path : String) (input : Text) :
    parseValue conv (fuel + 1) path input ≠ .error [] := by
  cases input with
  | nil => exact parseFailure_reports _ _
  | cons first rest =>
      unfold parseValue
      repeat' split
      all_goals first
        | exact parseLiteral_reports _ _ _ _
        | exact parseNumber_reports _ _ _
        | exact bind_ne_error (parseString_reports _ _ _) fun _ => nofun
        | exact bind_ne_error (h.elements _ _ _) fun _ => nofun
        | exact bind_ne_error (h.members _ _ _) fun _ => nofun
        | exact parseFailure_reports _ _
        | exact nofun

theorem parseElements_reports (h : FuelReports conv fuel) (path : String) (index : Nat)
    (input : Text) : parseElements conv (fuel + 1) path index input ≠ .error [] := by
  unfold parseElements
  refine bind_ne_error (h.value _ _) ?_
  intro ⟨value, rest⟩
  simp only
  split
  · exact parseFailure_reports _ _
  · exact nofun
  · exact bind_ne_error (h.elements _ _ _) fun _ => nofun
  · exact parseFailure_reports _ _

theorem parseMembers_reports (h : FuelReports conv fuel) (path : String) (object : Object)
    (input : Text) : parseMembers conv (fuel + 1) path object input ≠ .error [] := by
  cases input with
  | nil => exact parseFailure_reports _ _
  | cons first rest =>
      unfold parseMembers
      split
      · exact parseFailure_reports _ _
      · refine bind_ne_error (parseString_reports _ _ _) ?_
        intro ⟨key, rest⟩
        simp only
        split
        · refine bind_ne_error (h.value _ _) ?_
          intro ⟨value, rest⟩
          simp only
          split
          · exact nofun
          · split
            · exact parseFailure_reports _ _
            · exact nofun
            · exact h.members _ _ _
            · exact parseFailure_reports _ _
        · exact parseFailure_reports _ _

theorem fuelReports (conv : CharConv) (fuel : Nat) : FuelReports conv fuel := by
  induction fuel with
  | zero =>
      exact ⟨fun _ _ => parseFailure_reports _ _, fun _ _ _ => parseFailure_reports _ _,
        fun _ _ _ => parseFailure_reports _ _⟩
  | succ fuel ih => exact ⟨parseValue_reports ih, parseElements_reports ih, parseMembers_reports ih⟩

/-- **What cannot be read is reported.** -/
theorem parse_reports (conv : CharConv) (input : Text) : parse conv input ≠ .error [] := by
  unfold parse
  refine bind_ne_error ((fuelReports conv _).value _ _) ?_
  intro ⟨value, rest⟩
  simp only
  split
  · exact nofun
  · exact parseFailure_reports _ _

/-! ### Writing -/

theorem inOrder_reports {T : Type} {results : List (Result T)}
    (h : ∀ result ∈ results, result ≠ .error []) : inOrder results ≠ .error [] := by
  induction results with
  | nil => exact nofun
  | cons result rest ih =>
      obtain ⟨hfirst, hrest⟩ := List.forall_mem_cons.mp h
      refine bind_ne_error hfirst fun _ => ?_
      exact bind_ne_error (ih hrest) fun _ => nofun

theorem appendString_reports (text : Text) : appendString text ≠ .error [] :=
  bind_ne_error (decodeUtf8_reports text) fun _ => nofun

theorem canonicalNumber_reports (conv : CharConv) (number : Number) :
    canonicalNumber conv number ≠ .error [] := by
  cases number with
  | signedInteger lexical value => exact nofun
  | unsignedInteger lexical value => exact nofun
  | binary64 lexical bits =>
      show canonicalBinary64 conv bits ≠ .error []
      unfold canonicalBinary64
      split
      · exact nofun
      · split
        · exact nofun
        · split
          · exact nofun
          · simp only
            split
            · exact nofun
            · split
              · repeat' split
                all_goals exact nofun
              · exact nofun

theorem canonicalObject_reports {members : List (Text × Result Text)}
    (h : ∀ member ∈ members, member.2 ≠ .error []) : canonicalObject members ≠ .error [] := by
  refine bind_ne_error_of ?_ ?_
  · refine bind_ne_error (inOrder_reports ?_) fun _ => nofun
    rw [List.forall_mem_map]
    intro member _
    exact map_ne_error (map_ne_error (decodeUtf8_reports member.1) _) _
  · intro ordered hordered
    refine bind_ne_error (inOrder_reports ?_) fun _ => nofun
    obtain ⟨keyed, hkeyed, hsorted⟩ := bind_ok hordered
    obtain rfl := Except.ok.inj hsorted
    rw [List.forall_mem_map]
    intro place hplace
    have hmember : place.2 ∈ members := by
      rw [← (keyed_spec hkeyed).1]
      exact List.mem_map_of_mem ((List.mem_insertionSort _).mp hplace)
    refine bind_ne_error (appendString_reports _) fun _ => ?_
    exact bind_ne_error (h place.2 hmember) fun _ => nofun

/-- **What cannot be written is reported.** -/
theorem canonicalize_reports (conv : CharConv) (value : Value) :
    canonicalize conv value ≠ .error [] := by
  induction value using Value.byParts with
  | null => simp [canonicalize]
  | boolean value => cases value <;> simp [canonicalize]
  | number number => exact canonicalNumber_reports conv number
  | string text => exact appendString_reports text
  | array values ih =>
      rw [canonicalize, canonicalizeElements_eq]
      refine bind_ne_error (inOrder_reports ?_) fun _ => by simp
      rw [List.forall_mem_map]
      exact ih
  | object members ih =>
      rw [canonicalize, canonicalizeMembers_eq]
      apply canonicalObject_reports
      rw [List.forall_mem_map]
      exact ih

end CpuPrefetch.Protocol.Json
