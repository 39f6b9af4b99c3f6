import Mathlib.Data.List.Infix
import Scaffold.Template.Tree

/-!
# Text with placeholders

The plainest templates are literal text with names between it, each in a tag that prints its value
(`written placeholder`). Where no text opens a tag and every name stands for itself, such a template
compiles to just these texts and names in their order (`compile_written`).
-/

namespace Scaffold.Template

/-- Literal text and names by turns, the names written in some way: the text before the first name,
and every name with the text behind it. -/
def written (write : String → String) (first : String) : List (String × String) → String
  | [] => first
  | (x, next) :: rest => first ++ (write x ++ written write next rest)

def placeholder (x : String) : String := "\x7b\x7b " ++ (x ++ " \x7d\x7d")

def openings : List (List Char) := [['\x7b', '\x7b'], ['\x7b', '%'], ['\x7b', '#']]

/-- No tag begins in the text, nor with its last character. -/
structure OpensNoTag (cs : List Char) : Prop where
  inside : ∀ mark ∈ openings, ¬ mark <:+: cs
  last : cs.getLast? ≠ some '\x7b'

/-- Text that stays as it is in a template: it opens no tag and has no carriage return. -/
structure IsLiteral (text : String) : Prop where
  opensNoTag : OpensNoTag text.toList
  noReturn : '\r' ∉ text.toList

def isNameLetter (c : Char) : Bool := c.isAlpha || c = '_'

def isNameCharacter (c : Char) : Bool := c.isAlphanum || c = '_'

def isIdentifier : List Char → Bool
  | [] => false
  | c :: cs => isNameLetter c && cs.all isNameCharacter

/-- What is not looked up in the data where a value is expected: a negation, constants, and the
template itself. -/
def takenWords : List String := ["not", "true", "True", "false", "False", "none", "None", selfName]

/-- A name in ASCII that stands for what the data have under it. -/
structure IsFreeName (x : String) : Prop where
  isIdentifier : isIdentifier x.toList = true
  notTaken : x ∉ takenWords

/-- Free names and literal text by turns. -/
def AreFreeParts (rest : List (String × String)) : Prop :=
  ∀ part ∈ rest, IsFreeName part.1 ∧ IsLiteral part.2

instance (cs : List Char) : Decidable (OpensNoTag cs) :=
  decidable_of_iff ((∀ mark ∈ openings, ¬ mark <:+: cs) ∧ cs.getLast? ≠ some '\x7b')
    ⟨fun h => ⟨h.1, h.2⟩, fun h => ⟨h.inside, h.last⟩⟩

instance (text : String) : Decidable (IsLiteral text) :=
  decidable_of_iff (OpensNoTag text.toList ∧ '\r' ∉ text.toList)
    ⟨fun h => ⟨h.1, h.2⟩, fun h => ⟨h.opensNoTag, h.noReturn⟩⟩

instance (x : String) : Decidable (IsFreeName x) :=
  decidable_of_iff (isIdentifier x.toList = true ∧ x ∉ takenWords)
    ⟨fun h => ⟨h.1, h.2⟩, fun h => ⟨h.isIdentifier, h.notTaken⟩⟩

variable {first next x path : String} {l cs more : List Char} {c d close : Char}
  {line fuel : Nat} {afterDot : Bool} {rest : List (String × String)} {ns : List Node}

/-- A tag sees the beginning of a name in the character, and nothing else. -/
structure BeginsName (c : Char) : Prop where
  isNameStart : Text.isNameStart c = true
  notDecimal : Text.isDecimalDigit c = false
  notDigit : c.isDigit = false
  notBlank : Text.isBlank c = false
  notSign : c ≠ '-' ∧ c ≠ '+'

theorem toNat_lt_of_isNameCharacter (h : isNameCharacter c = true) : c.toNat < 128 := by
  have halpha : c.isAlpha = (c.isUpper || c.isLower) := rfl
  have hlower : c.isLower = (decide (97 ≤ c.toNat) && decide (c.toNat ≤ 122)) := rfl
  have hupper : c.isUpper = decide (65 ≤ c.toNat ∧ c.toNat ≤ 90) := rfl
  have hdigit : c.isDigit = (decide (48 ≤ c.toNat) && decide (c.toNat ≤ 57)) := rfl
  simp only [isNameCharacter, Char.isAlphanum, halpha, hlower, hupper, hdigit, Bool.or_eq_true,
    Bool.and_eq_true, decide_eq_true_eq] at h
  rcases h with h | rfl
  · omega
  · decide

theorem isNameCharacter_of_isNameLetter (h : isNameLetter c = true) : isNameCharacter c = true := by
  simp only [isNameLetter, isNameCharacter, Char.isAlphanum, Bool.or_eq_true] at h ⊢
  tauto

theorem isNameCharacter_of_mem (h : isIdentifier cs = true) (hc : c ∈ cs) :
    isNameCharacter c = true := by
  cases cs with
  | nil => cases hc
  | cons d cs =>
    rw [isIdentifier, Bool.and_eq_true, List.all_eq_true] at h
    rcases List.mem_cons.mp hc with rfl | hc
    · exact isNameCharacter_of_isNameLetter h.1
    · exact h.2 c hc

theorem nameCharacters_ascii : ∀ n < 128,
    (isNameLetter (Char.ofNat n) = true →
      Text.isNameStart (Char.ofNat n) = true ∧ Text.isDecimalDigit (Char.ofNat n) = false ∧
      (Char.ofNat n).isDigit = false ∧ Text.isBlank (Char.ofNat n) = false ∧
      Char.ofNat n ≠ '-' ∧ Char.ofNat n ≠ '+') ∧
    (isNameCharacter (Char.ofNat n) = true →
      Text.isNameContinue (Char.ofNat n) = true ∧ Char.ofNat n ≠ '\x7d') := by
  decide +kernel

theorem beginsName (h : isNameLetter c = true) : BeginsName c := by
  have hc := (nameCharacters_ascii c.toNat
    (toNat_lt_of_isNameCharacter (isNameCharacter_of_isNameLetter h))).1
  rw [Char.ofNat_toNat] at hc
  obtain ⟨hstart, hdecimal, hdigit, hblank, hsign⟩ := hc h
  exact ⟨hstart, hdecimal, hdigit, hblank, hsign⟩

theorem isNameContinue_of_isNameCharacter (h : isNameCharacter c = true) :
    Text.isNameContinue c = true ∧ c ≠ '\x7d' := by
  have hc := (nameCharacters_ascii c.toNat (toNat_lt_of_isNameCharacter h)).2
  rw [Char.ofNat_toNat] at hc
  exact hc h

theorem opensNoTag_of_cons (h : OpensNoTag (c :: cs)) : OpensNoTag cs where
  inside mark hmark hin := h.inside mark hmark (List.infix_cons_iff.mpr (.inr hin))
  last hlast := by
    refine h.last ?_
    rw [List.getLast?_cons, hlast]
    rfl

/-- A tag is found where it is, behind text that opens none. -/
theorem untilOpening_append (h : OpensNoTag l) (hm : more = [] ∨ ['\x7b', '\x7b'] <+: more) :
    Piece.untilOpening (l ++ more) = (l, more) := by
  induction l with
  | nil =>
    rcases hm with rfl | ⟨rest, rfl⟩
    · rfl
    · exact if_pos ⟨rfl, .inl rfl⟩
  | cons c l ih =>
    -- The first two characters open no tag: both stand in the text, or the first is its last.
    have hno : ¬ (c = '\x7b' ∧ ((l ++ more).head? = some '\x7b' ∨ (l ++ more).head? = some '%' ∨
        (l ++ more).head? = some '#')) := by
      rintro ⟨rfl, hhead⟩
      cases l with
      | nil => exact h.last rfl
      | cons d l =>
        have hmark : ['\x7b', d] ∈ openings := by
          simpa [openings] using hhead
        exact h.inside _ hmark ⟨[], l, rfl⟩
    rw [List.cons_append, Piece.untilOpening, if_neg hno, ih (opensNoTag_of_cons h)]

/-! ## Tags -/

/-- A tag does not end with a character that is no sign, before one that is no brace. -/
theorem ending?_eq_none (hc : c ≠ '-' ∧ c ≠ '+') (hd : d ≠ '\x7d') :
    ending? close (c :: d :: cs) = none := by
  unfold ending?
  split <;> simp_all

/-- The end of a tag that prints a value takes nothing along, no line end either. -/
theorem ending?_braces (more : List Char) :
    ending? '\x7d' ('\x7d' :: '\x7d' :: more) = some ([], more) := by
  rw [ending?.eq_def]
  cases more with
  | nil => rfl
  | cons c more => by_cases hc : c = '\n' <;> simp_all

theorem scanTagFrom_blank (he : ending? close (c :: cs) = none) (hc : Text.isBlank c = true)
    (hline : c ≠ '\n') : scanTagFrom close (fuel + 1) line [] afterDot (c :: cs) =
      scanTagFrom close fuel line [] false cs := by
  rw [scanTagFrom.eq_4 close line [] afterDot fuel c cs he, if_pos hc, if_neg hline]

theorem scanTagFrom_end (he : ending? close cs = some ([], more)) :
    scanTagFrom close (fuel + 1) line [] afterDot cs = ([], some ⟨more, line, false⟩) := by
  rw [scanTagFrom.eq_2 close line [] afterDot fuel cs [] more he]
  rfl

theorem nextToken_name (hc : BeginsName c) (hcs : ∀ d ∈ cs, Text.isNameContinue d = true) :
    nextToken [] false (c :: (cs ++ ' ' :: more)) =
      .ok (⟨.name (String.ofList (c :: cs)), 0, ' ' :: more⟩, []) := by
  have hfloat : float? (c :: (cs ++ ' ' :: more)) = none := by
    simp [float?, decimal?, hc.notDecimal]
  have hint : int? (c :: (cs ++ ' ' :: more)) = none := by
    have hzero : c ≠ '0' := by
      rintro rfl
      cases hc.notDigit
    rw [int?.eq_def]
    split
    · next h => exact absurd (List.cons.inj h).1 hzero
    · next h =>
      rw [← (List.cons.inj h).1, hc.notDigit]
      rfl
    · rfl
  have hblank : Text.isNameContinue ' ' = false := by decide
  have hspan : (cs ++ ' ' :: more).span Text.isNameContinue = (cs, ' ' :: more) := by
    rw [List.span_eq_takeWhile_dropWhile, List.takeWhile_append_of_pos hcs,
      List.dropWhile_append_of_pos hcs, List.takeWhile_cons_of_neg (by simp [hblank]),
      List.dropWhile_cons_of_neg (by simp [hblank]), List.append_nil]
  have htoken : token? false (c :: (cs ++ ' ' :: more)) =
      some ⟨.name (String.ofList (c :: cs)), 0, ' ' :: more⟩ := by
    simp only [token?, Bool.false_eq_true, if_false, hfloat, hint, hc.isNameStart, if_true, hspan]
  rw [nextToken, htoken]
  rfl

theorem scanTagFrom_name (he : ending? close (c :: (cs ++ ' ' :: more)) = none)
    (hc : BeginsName c) (hcs : ∀ d ∈ cs, Text.isNameContinue d = true) :
    scanTagFrom close (fuel + 1) line [] false (c :: (cs ++ ' ' :: more)) =
      (⟨line, .name (String.ofList (c :: cs))⟩ ::
          (scanTagFrom close fuel line [] false (' ' :: more)).1,
        (scanTagFrom close fuel line [] false (' ' :: more)).2) := by
  rw [scanTagFrom.eq_4 close line [] false fuel c _ he, hc.notBlank, nextToken_name hc hcs]
  rfl

theorem scanTag_name (hx : isIdentifier x.toList = true) :
    scanTag '\x7d' line (' ' :: (x.toList ++ ' ' :: '\x7d' :: '\x7d' :: more)) =
      ([⟨line, .name x⟩], some ⟨more, line, false⟩) := by
  cases hxs : x.toList with
  | nil => rw [hxs] at hx; cases hx
  | cons c cs =>
    rw [hxs, isIdentifier, Bool.and_eq_true, List.all_eq_true] at hx
    obtain ⟨hfirst, hcs⟩ := hx
    have hc := beginsName hfirst
    have hnot := (isNameContinue_of_isNameCharacter (isNameCharacter_of_isNameLetter hfirst)).2
    have hback : String.ofList (c :: cs) = x := by rw [← hxs, String.ofList_toList]
    have hinside : ending? '\x7d' (c :: (cs ++ ' ' :: '\x7d' :: '\x7d' :: more)) = none := by
      cases cs with
      | nil => exact ending?_eq_none hc.notSign (by decide)
      | cons d cs =>
        exact ending?_eq_none hc.notSign
          (isNameContinue_of_isNameCharacter (hcs d List.mem_cons_self)).2
    -- The two blanks, the name and the end are four steps.
    obtain ⟨fuel, hfuel⟩ : ∃ fuel,
        (' ' :: (c :: cs ++ ' ' :: '\x7d' :: '\x7d' :: more)).length + 1 = fuel + 4 :=
      ⟨cs.length + more.length + 2, by simp; omega⟩
    rw [scanTag, hfuel, List.cons_append,
      scanTagFrom_blank (ending?_eq_none (by decide) hnot) (by decide) (by decide),
      scanTagFrom_name hinside hc fun d hd => (isNameContinue_of_isNameCharacter (hcs d hd)).1,
      scanTagFrom_blank rfl (by decide) (by decide), scanTagFrom_end (ending?_braces more), hback]

theorem toList_written_cons (write : String → String) :
    (written write first ((x, next) :: rest)).toList =
      first.toList ++ ((write x).toList ++ (written write next rest).toList) := by
  rw [written, String.toList_append, String.toList_append]

theorem toList_placeholder (x : String) : (placeholder x).toList =
    '\x7b' :: '\x7b' :: ' ' :: (x.toList ++ [' ', '\x7d', '\x7d']) := by
  rw [placeholder, String.toList_append, String.toList_append]
  rfl

theorem cutFrom_literal (hl : OpensNoTag l) (atLineStart : Bool) :
    Piece.cutFrom (fuel + 1) line atLineStart l = Piece.ofText l := by
  have huntil : Piece.untilOpening l = (l, []) := by
    have h : Piece.untilOpening (l ++ []) = (l, []) := untilOpening_append hl (.inl rfl)
    rwa [List.append_nil] at h
  rw [Piece.cutFrom, huntil]

/-- Text and a placeholder are two pieces, and nothing around the placeholder is dropped. -/
theorem cutFrom_placeholder (hl : OpensNoTag l) (hx : isIdentifier x.toList = true)
    (atLineStart : Bool) :
    Piece.cutFrom (fuel + 1) line atLineStart (l ++ ((placeholder x).toList ++ more)) =
      Piece.ofText l ++ .output [⟨line + lineEnds l, .name x⟩] ::
        Piece.cutFrom fuel (line + lineEnds l) false more := by
  have htag : (placeholder x).toList ++ more =
      '\x7b' :: '\x7b' :: ' ' :: (x.toList ++ ' ' :: '\x7d' :: '\x7d' :: more) := by
    rw [toList_placeholder]
    simp
  have huntil : Piece.untilOpening (l ++ ((placeholder x).toList ++ more)) =
      (l, (placeholder x).toList ++ more) := untilOpening_append hl (.inr ⟨_, htag.symm⟩)
  rw [Piece.cutFrom, huntil, htag]
  have hsign : ∀ cs, Piece.sign (' ' :: cs) = (.none, ' ' :: cs) := fun _ => rfl
  simp only [hsign, Piece.trimBefore, Piece.tag, scanTag_name hx, if_true, ne_eq, not_true_eq_false,
    decide_false, Bool.false_eq_true, if_false]
  simp

/-! ## Reading -/

theorem constant?_eq_none (hx : x ∉ takenWords) : Grammar.constant? x = none := by
  unfold Grammar.constant?
  split
  case h_7 => rfl
  all_goals exact absurd (by decide) hx

theorem readComparisons_nil (fuel room : Nat) :
    Grammar.readComparisons (fuel + 1) room [] = .ok ([], []) := by
  rw [Grammar.readComparisons]

theorem readers_nil (fuel room : Nat) (e : Expr) :
    Grammar.readParts (fuel + 1) room e [] = .ok (e, []) ∧
      Grammar.readFilters (fuel + 1) room e [] = .ok (e, []) ∧
      Grammar.readMoreAnd (fuel + 1) room e [] = .ok (e, []) ∧
      Grammar.readMoreOr (fuel + 1) room e [] = .ok (e, []) ∧
      ∀ line, Grammar.readConditions (fuel + 1) room line e [] = .ok (e, []) := by
  refine ⟨?_, ?_, ?_, ?_, fun line => ?_⟩
  · rw [Grammar.readParts] <;> simp
  · rw [Grammar.readFilters] <;> simp
  · rw [Grammar.readMoreAnd]
    rfl
  · rw [Grammar.readMoreOr]
    rfl
  · rw [Grammar.readConditions]
    rfl

/-- A name is an expression: nothing stands before it, and nothing follows it. -/
theorem expression_name (hx : x ∉ takenWords) :
    Grammar.expression Grammar.fullRoom [⟨line, .name x⟩] = .ok (.name x) := by
  have hnot : Grammar.word? "not" [⟨line, .name x⟩] = none := by
    have hne : Token.name x ≠ .name "not" := by
      rintro ⟨⟩
      exact hx (by decide)
    exact if_neg hne
  have hmark : ∀ m, Grammar.mark? m [⟨line, .name x⟩] = none := fun _ => rfl
  have hminus : Grammar.readMinus 34 Grammar.fullRoom true [⟨line, .name x⟩] =
      .ok (.name x, []) := by
    rw [Grammar.readMinus, hmark]
    simp only [Grammar.readPrimary, constant?_eq_none hx, bind, Except.bind, readers_nil, if_true]
  have hor : Grammar.readOr 37 Grammar.fullRoom [⟨line, .name x⟩] = .ok (.name x, []) := by
    rw [Grammar.readOr, Grammar.readAnd, Grammar.readNot, hnot]
    simp only [hminus, bind, Except.bind, readers_nil, readComparisons_nil, List.isEmpty_nil,
      if_true]
  have hlisted : Grammar.readListed 39 Grammar.fullRoom true [⟨line, .name x⟩] =
      .ok ([.name x], false, []) := by
    rw [Grammar.readListed, hmark]
    simp only [Grammar.read, hor, bind, Except.bind, readers_nil]
    rfl
  have htuple : Grammar.readTuple 40 Grammar.fullRoom false [⟨line, .name x⟩] =
      .ok (.name x, []) := by
    rw [Grammar.readTuple, hlisted]
    rfl
  have hfuel : Grammar.fuelFor [⟨line, .name x⟩] = 40 := rfl
  rw [Grammar.expression, hfuel, htuple]
  rfl

def Node.ofText (text : String) : List Node := if text.toList.isEmpty then [] else [.text text]

/-- The nodes of literal text and names by turns. -/
def writtenNodes (first : String) : List (String × String) → List Node
  | [] => Node.ofText first
  | (x, next) :: rest => Node.ofText first ++ .output (.name x) :: writtenNodes next rest

theorem foldlM_ofText (text : String) (ns : List Node) :
    (Piece.ofText text.toList).foldlM Growth.takeIn ⟨[], ns⟩ =
      .ok ⟨[], (Node.ofText text).reverse ++ ns⟩ := by
  unfold Piece.ofText Node.ofText
  split
  · rfl
  · rw [List.foldlM_cons, Growth.takeIn, String.ofList_toList]
    rfl

theorem takeIn_placeholder (hx : x ∉ takenWords) (ns : List Node) :
    Growth.takeIn ⟨[], ns⟩ (.output [⟨line, .name x⟩]) = .ok ⟨[], .output (.name x) :: ns⟩ := by
  have hroom : Growth.room ⟨[], ns⟩ = .ok Grammar.fullRoom := rfl
  rw [Growth.takeIn, hroom]
  simp only [bind, Except.bind, expression_name hx]
  rfl

/-- Reading goes from placeholder to placeholder, in as many steps. -/
theorem foldlM_cutFrom (hrest : AreFreeParts rest) (hfirst : IsLiteral first)
    (hfuel : rest.length < fuel) (atLineStart : Bool) (ns : List Node) :
    (Piece.cutFrom fuel line atLineStart (written placeholder first rest).toList).foldlM
        Growth.takeIn ⟨[], ns⟩ =
      .ok ⟨[], (writtenNodes first rest).reverse ++ ns⟩ := by
  induction rest generalizing first fuel line atLineStart ns with
  | nil =>
    obtain ⟨fuel, rfl⟩ := Nat.exists_eq_add_of_lt hfuel
    rw [written, List.length_nil, Nat.zero_add, cutFrom_literal hfirst.opensNoTag]
    exact foldlM_ofText first ns
  | cons part rest ih =>
    obtain ⟨x, next⟩ := part
    obtain ⟨⟨hx, hnext⟩, hrest⟩ := List.forall_mem_cons.mp hrest
    obtain ⟨fuel, rfl⟩ : ∃ k, fuel = k + 1 := ⟨fuel - 1, by omega⟩
    have hok : ∀ (g : Growth) (f : Growth → Except Flaw Growth), (.ok g >>= f) = f g :=
      fun _ _ => rfl
    rw [toList_written_cons, cutFrom_placeholder hfirst.opensNoTag hx.isIdentifier,
      List.foldlM_append, foldlM_ofText, hok, List.foldlM_cons, takeIn_placeholder hx.notTaken, hok,
      ih hrest hnext (by simpa using hfuel), writtenNodes]
    simp

theorem length_le_written (rest : List (String × String)) (first : String) :
    rest.length ≤ (written placeholder first rest).toList.length := by
  induction rest generalizing first with
  | nil => exact Nat.zero_le _
  | cons part rest ih =>
    have htail := ih part.2
    rw [toList_written_cons, toList_placeholder]
    simp only [List.length_cons, List.length_append]
    omega

theorem read_written (hfirst : IsLiteral first) (hrest : AreFreeParts rest) :
    Node.read (written placeholder first rest).toList = .ok (writtenNodes first rest) := by
  have hfuel := Nat.lt_succ_of_le (length_le_written rest first)
  rw [Node.read, Piece.cut, Growth.start, foldlM_cutFrom hrest hfirst hfuel]
  simp [bind, Except.bind, Growth.result]

/-! ## Compiling -/

/-- Text, or a name whose value is printed. -/
inductive Node.IsPlain : Node → Prop where
  | text (s : String) : (Node.text s).IsPlain
  | name (x : String) : (Node.output (.name x)).IsPlain

theorem writtenNodes_isPlain : ∀ n ∈ writtenNodes first rest, n.IsPlain := by
  have htext : ∀ text, ∀ n ∈ Node.ofText text, n.IsPlain := by
    intro text n hn
    unfold Node.ofText at hn
    split at hn
    · cases hn
    · rw [List.mem_singleton.mp hn]
      exact .text text
  induction rest generalizing first with
  | nil => exact htext first
  | cons part rest ih =>
    intro n hn
    rcases List.mem_append.mp hn with hn | hn
    · exact htext first n hn
    · rcases List.mem_cons.mp hn with rfl | hn
      · exact .name part.1
      · exact ih n hn

theorem checkRun_of_isPlain (h : ∀ n ∈ ns, n.IsPlain) : Node.checkRun ns = .ok () := by
  induction ns with
  | nil => rfl
  | cons n ns ih =>
    obtain ⟨hn, hns⟩ := List.forall_mem_cons.mp h
    cases hn with
    | text s => exact ih hns
    | name x => exact ih hns

theorem foldNodes_of_isPlain (h : ∀ n ∈ ns, n.IsPlain) (soft inRun : Bool) :
    Node.foldNodes soft inRun ns = .ok ns := by
  induction ns generalizing inRun with
  | nil => rfl
  | cons n ns ih =>
    obtain ⟨hn, hns⟩ := List.forall_mem_cons.mp h
    have hfold : n.fold soft = .ok n := by
      cases hn with
      | text s => rfl
      | name x => rfl
    rw [Node.foldNodes, checkRun_of_isPlain h, hfold, ih hns]
    cases inRun <;> rfl

theorem checkNodesDepth_of_isPlain (h : ∀ n ∈ ns, n.IsPlain) (own : Bool) (conditions : Nat) :
    Node.checkNodesDepth own conditions ns = .ok () := by
  induction ns with
  | nil => rfl
  | cons n ns ih =>
    obtain ⟨hn, hns⟩ := List.forall_mem_cons.mp h
    have hdepth : n.checkDepth own conditions = .ok () := by
      cases hn with
      | text s => rfl
      | name x =>
        have hle : ¬ Node.bracketLimit < (Expr.name x).depth own + 1 := by
          rw [Expr.depth]
          split <;> decide
        exact if_neg hle
    rw [Node.checkNodesDepth, hdepth]
    exact ih hns

theorem anyNodePart_of_isPlain {test : Expr → Bool} (ht : ∀ x, test (.name x) = false)
    (h : ∀ n ∈ ns, n.IsPlain) : anyNodePart test ns = false := by
  induction ns with
  | nil => rfl
  | cons n ns ih =>
    obtain ⟨hn, hns⟩ := List.forall_mem_cons.mp h
    rw [anyNodePart, ih hns]
    cases hn with
    | text s => rfl
    | name x => simp [Node.anyPart, Expr.anyPart, ht]

theorem checkFolded_of_isPlain (h : ∀ n ∈ ns, n.IsPlain) (name : String) (own : Bool) :
    Node.checkFolded name own ns = .ok () := by
  rw [Node.checkFolded, checkNodesDepth_of_isPlain h, anyNodePart_of_isPlain (fun _ => rfl) h,
    anyNodePart_of_isPlain (fun _ => rfl) h, Bool.and_false]
  rfl

def writtenTree (path first : String) (rest : List (String × String)) : Tree :=
  ⟨path, Slot.ofNodes (writtenNodes first rest), writtenNodes first rest⟩

/-- **Text with placeholders compiles.** Literal text and placeholders are a template of just these
texts and names in their order, whatever it is called. -/
theorem compile_written (hfirst : IsLiteral first) (hrest : AreFreeParts rest) :
    Tree.ofSource path (written placeholder first rest).toList =
      .ok (writtenTree path first rest) := by
  have hplain : ∀ n ∈ writtenNodes first rest, n.IsPlain := writtenNodes_isPlain
  rw [Tree.ofSource, read_written hfirst hrest]
  simp only [bind, Except.bind, foldNodes_of_isPlain hplain, checkFolded_of_isPlain hplain]
  rfl

end Scaffold.Template
