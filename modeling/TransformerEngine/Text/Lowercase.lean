import TransformerEngine.Text.CaseTable

/-!
# Lower-case texts

The lower-case form of a text by the Unicode rules that need no locale. All but two
letters are mapped one by one through `lowerRuns`:

* `İ` becomes `i` with a combining dot above, two characters;
* the capital sigma becomes `ς` at the end of a word and `σ` elsewhere. It ends a word
  when, reading over characters that case ignores, a cased letter stands before it and
  none after it.

On ASCII texts this is `Char.toLower` letter by letter (`lowerChars_ascii`).
-/

namespace TransformerEngine.Text

/-- The lower-case form of a single character, sigma and `İ` apart. -/
def lowerChar (c : Char) : Char :=
  if c.toNat < 0x80 then c.toLower
  else
    match lowerRuns.find? fun run =>
        run.first ≤ c.toNat && c.toNat ≤ run.last && (c.toNat - run.first) % run.step == 0 with
    | some run => Char.ofNat (c.toNat + run.offset).toNat
    | none => c

/-- Reading from the start of `cs` over characters that case ignores, a cased letter
comes next. -/
def casedNext (cs : List Char) : Bool :=
  match cs.dropWhile (inRanges caseIgnorableRanges) with
  | c :: _ => inRanges casedRanges c
  | [] => false

/-- The lower-case form of `c` between the characters `before`, nearest first, and
`after`. -/
def lowerInContext (before : List Char) (c : Char) (after : List Char) : List Char :=
  if c = 'Σ' then [if casedNext before && !casedNext after then 'ς' else 'σ']
  else if c = 'İ' then ['i', Char.ofNat 0x307]
  else [lowerChar c]

/-- The lower-case form of the characters that follow `before`, nearest first. -/
def lowerChars (before : List Char) : List Char → List Char
  | [] => []
  | c :: rest => lowerInContext before c rest ++ lowerChars (c :: before) rest

/-- The lower-case form of `text`. -/
def lowercase (text : String) : String := String.ofList (lowerChars [] text.toList)

/-- `text` with its ASCII letters in lower case and all other characters unchanged. -/
def lowercaseAscii (text : String) : String := text.map Char.toLower

theorem lowerChars_ascii (before : List Char) {cs : List Char} (h : ∀ c ∈ cs, c.toNat < 0x80) :
    lowerChars before cs = cs.map Char.toLower := by
  induction cs generalizing before with
  | nil => rfl
  | cons c cs ih =>
    have hc := h c (by simp)
    have hsigma : c ≠ 'Σ' := by rintro rfl; revert hc; decide
    have hdot : c ≠ 'İ' := by rintro rfl; revert hc; decide
    simp [lowerChars, lowerInContext, hsigma, hdot, lowerChar, hc,
      ih (c :: before) fun d hd => h d (by simp [hd])]

end TransformerEngine.Text
