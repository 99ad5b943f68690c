/-!
# Endings of texts

Tests and cuts at the end of a text, on its characters. `stripEnding?_eq_some_iff` says
that cutting an ending off inverts appending it.
-/

namespace TransformerEngine.Text

/-- Whether `text` ends in `ending`. -/
def hasEnding (text ending : String) : Bool := ending.toList.isSuffixOf text.toList

/-- `text` without `ending` at its end, if it has it there. -/
def stripEnding? (text ending : String) : Option String :=
  if hasEnding text ending then
    some (String.ofList (text.toList.take (text.toList.length - ending.toList.length)))
  else none

/-- Whether `text` starts with `start`. -/
def hasStart (text start : String) : Bool := start.toList.isPrefixOf text.toList

/-- The characters behind the last `separator`, all of them if there is none. -/
def afterLast (separator : Char) (text : String) : String :=
  String.ofList (text.toList.reverse.takeWhile (· != separator)).reverse

/-- `text` without the run of `c` at its end. -/
def dropEnd (c : Char) (text : String) : String :=
  String.ofList (text.toList.reverse.dropWhile (· == c)).reverse

theorem hasEnding_iff (text ending : String) :
    hasEnding text ending = true ↔ ∃ stem, text = stem ++ ending := by
  unfold hasEnding
  rw [List.isSuffixOf_iff_suffix]
  constructor
  · rintro ⟨cs, h⟩
    refine ⟨String.ofList cs, ?_⟩
    rw [← String.toList_inj, String.toList_append, String.toList_ofList, h]
  · rintro ⟨stem, rfl⟩
    exact ⟨stem.toList, by rw [String.toList_append]⟩

theorem stripEnding?_append (stem ending : String) :
    stripEnding? (stem ++ ending) ending = some stem := by
  have h : hasEnding (stem ++ ending) ending = true := (hasEnding_iff _ _).mpr ⟨stem, rfl⟩
  simp [stripEnding?, h]

theorem stripEnding?_eq_some_iff (text ending stem : String) :
    stripEnding? text ending = some stem ↔ text = stem ++ ending := by
  constructor
  · intro h
    have hend : hasEnding text ending = true := by
      unfold stripEnding? at h
      split at h
      · assumption
      · cases h
    obtain ⟨stem', rfl⟩ := (hasEnding_iff _ _).mp hend
    rw [stripEnding?_append] at h
    rw [Option.some.inj h]
  · rintro rfl
    exact stripEnding?_append stem ending

end TransformerEngine.Text
