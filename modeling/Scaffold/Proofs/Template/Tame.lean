import Scaffold.Template.Render

/-!
# Tame templates

A template is tame if it only looks at names, asks for equality, decides, and shapes texts. From
words, flags and missing values it computes nothing else, so it cannot fail, and what it gives is a
plain function of these values, its `meaning`: from every data of this kind a tame template renders
as what it means, whatever was rendered before, and changes nothing in the memory
(`Tree.render_of_tame`). What it means depends only on the data under the names that it uses
(`Tree.meaning_congr`).
-/

namespace Scaffold.Template

/-- A value that stands for itself and that nothing can be done wrong with: a flag, a word, a helper
or nothing. -/
def Value.isSimple : Value → Bool
  | .bool _ | .str _ | .helper _ | .absent _ => true
  | _ => false

/-- A constant that a tame expression can have. -/
def Value.isWord : Value → Bool
  | .bool _ | .str _ => true
  | _ => false

def Value.text (x : Value) : String := x.content.text?.getD ""

@[simp] theorem Value.text_str (s : String) : (Value.str s).text = s := by
  simp [text, content]

/-- The filter changes texts, with words as arguments if it needs any. -/
def tameFilter (name : String) : List (Option String × Expr) → Bool
  | [] => name = "pascalCase"
  | [(none, .constant (.str _)), (none, .constant (.str _))] => name = "replace"
  | _ => false

mutual

/-- The expression only looks at names, asks for equality, decides, and shapes texts. -/
def Expr.isTame : Expr → Bool
  | .constant x => x.isWord
  | .name _ => true
  | .filter e name args => e.isTame && tameFilter name args
  | .not e => e.isTame
  | .and a b | .or a b => a.isTame && b.isTame
  | .compare e rest => e.isTame && tameRest rest
  | .ifElse _ test yes no => test.isTame && yes.isTame && tameElse no
  | _ => false

def tameRest : List (Comparison × Expr) → Bool
  | [] => true
  | (c, e) :: rest => (c = .same || c = .differs) && e.isTame && tameRest rest

def tameElse : Option Expr → Bool
  | none => true
  | some e => e.isTame

end

mutual

def Node.isTame : Node → Bool
  | .text _ => true
  | .shown x => !x.isRough
  | .output e | .assign _ e => e.isTame
  | .branch arms otherwise => tameArms arms && tameNodes otherwise

def tameArms : List (Expr × List Node) → Bool
  | [] => true
  | (test, nodes) :: arms => test.isTame && tameNodes nodes && tameArms arms

def tameNodes : List Node → Bool
  | [] => true
  | n :: ns => n.isTame && tameNodes ns

end

/-- The slot starts with a simple value, if the data are simple. -/
def Slot.isTame (slot : Slot) : Bool := slot.origin ≠ .template && slot.name ≠ "helpers"

def Tree.isTame (t : Tree) : Bool := t.slots.all Slot.isTame && tameNodes t.nodes

/-! ## Meanings -/

/-- What stands under a name where there are no containers. -/
def Frame.read (fr : Frame) (name : String) : Value :=
  match fr.slot? name with
  | some (.plain x) => x
  | _ => .absent (.name name)

/-- What an inline condition without another branch gives where it is false. -/
def Frame.noBranch (fr : Frame) (line : Nat) : Value :=
  match fr.stage with
  | .running template => .absent (.branch line template)
  | .compiling => .null

def compareMeaning (c : Comparison) (x y : Value) : Bool :=
  if c = .same then x.same y else !x.same y

/-- What a tame filter with these arguments makes of a value. -/
def filterMeaning (x : Value) : List (Option String × Expr) → Value
  | [(none, .constant (.str old)), (none, .constant (.str new))] =>
    .str (String.ofList (Text.replace old.toList new.toList none x.text.toList))
  | _ => .str (x.shape Text.pascal)

mutual

/-- What a tame expression stands for. -/
def Expr.meaning (fr : Frame) : Expr → Value
  | .constant x => x
  | .name s => fr.read s
  | .filter e _ args => filterMeaning (e.meaning fr) args
  | .not e => .bool !(e.meaning fr).truthy
  | .and a b => if (a.meaning fr).truthy then b.meaning fr else a.meaning fr
  | .or a b => if (a.meaning fr).truthy then a.meaning fr else b.meaning fr
  | .compare e rest => .bool (chainMeaning fr (e.meaning fr) rest)
  | .ifElse line test yes no =>
    if (test.meaning fr).truthy then yes.meaning fr else elseMeaning fr line no
  | _ => .null

def chainMeaning (fr : Frame) (x : Value) : List (Comparison × Expr) → Bool
  | [] => true
  | (c, e) :: rest =>
    compareMeaning c x (e.meaning fr) && chainMeaning fr (e.meaning fr) rest

def elseMeaning (fr : Frame) (line : Nat) : Option Expr → Value
  | none => fr.noBranch line
  | some e => e.meaning fr

end

mutual

/-- The text of a tame node, and the frame after it. -/
def Node.meaning (fr : Frame) : Node → String × Frame
  | .text s => (s, fr)
  | .shown x => (x.text, fr)
  | .output e => ((e.meaning fr).text, fr)
  | .assign s e => ("", fr.put s (some (.plain (e.meaning fr))))
  | .branch arms otherwise => armsMeaning fr (nodesMeaning fr otherwise) arms

/-- The text of the first arm whose test is true, or else what there is otherwise. -/
def armsMeaning (fr : Frame) (otherwise : String × Frame) :
    List (Expr × List Node) → String × Frame
  | [] => otherwise
  | (test, nodes) :: arms =>
    if (test.meaning fr).truthy then nodesMeaning fr nodes else armsMeaning fr otherwise arms

def nodesMeaning (fr : Frame) : List Node → String × Frame
  | [] => ("", fr)
  | n :: ns =>
    let first := n.meaning fr
    let rest := nodesMeaning first.2 ns
    (first.1 ++ rest.1, rest.2)

end

/-- Fills a slot with a value that needs no place in the memory. -/
def Frame.fill (template : String) (data : Data) (fr : Frame) (slot : Slot) : Frame :=
  fr.put slot.name (match slot.origin with
    | .template => some (.plain (.template template))
    | .nowhere => none
    | .data => ((data.lookup slot.name).map .plain).or (builtin? slot.name))

/-- The frame that a template begins with. -/
def Frame.start (template : String) (slots : List Slot) (data : Data) : Frame :=
  slots.foldl (fill template data) ⟨.running template, []⟩

def Tree.meaning (t : Tree) (data : Data) : String :=
  (nodesMeaning (Frame.start t.name t.slots data) t.nodes).1

theorem nodesMeaning_cons {fr : Frame} {n : Node} {ns : List Node} {text rest : String}
    (hn : n.meaning fr = (text, fr)) (hns : nodesMeaning fr ns = (rest, fr)) :
    nodesMeaning fr (n :: ns) = (text ++ rest, fr) := by
  rw [nodesMeaning, hn, hns]

theorem nodesMeaning_singleton {fr : Frame} {n : Node} {text : String}
    (hn : n.meaning fr = (text, fr)) : nodesMeaning fr [n] = (text, fr) := by
  rw [nodesMeaning, hn, nodesMeaning, String.append_empty]

/-- A template is being rendered, and all slots that are filled hold simple values. -/
structure Frame.IsSimple (fr : Frame) : Prop where
  running : ∃ template, fr.stage = .running template
  slots : ∀ name h, fr.slot? name = some h → ∃ x, h = .plain x ∧ x.isSimple

/-- An evaluation gives a simple value and leaves everything as it is. -/
structure Eval.Gives (fr : Frame) (run : Eval Handle) (x : Value) : Prop where
  result : ∀ m, run ⟨fr, m⟩ = .ok (.plain x) ⟨fr, m⟩
  isSimple : x.isSimple

variable {α β : Type} {fr fr' : Frame} {sc sc' : Scope} {m : Memory} {x : Value}

theorem Eval.bind_of_ok {run : Eval α} {f : α → Eval β} {a : α} (h : run sc = .ok a sc') :
    (run >>= f) sc = f a sc' := by
  change EStateM.bind run f sc = _
  rw [EStateM.bind, h]

theorem Eval.Gives.bind {run : Eval Handle} {f : Handle → Eval β} (h : Gives fr run x) :
    (run >>= f) ⟨fr, m⟩ = f (.plain x) ⟨fr, m⟩ := bind_of_ok (h.result m)

theorem Eval.Gives.branch {run : Eval Handle} {yes no : Handle → Eval β} (h : Gives fr run x) :
    (do let k ← run; if ← truthy k then yes k else no k) ⟨fr, m⟩ =
      if x.truthy then yes (.plain x) ⟨fr, m⟩ else no (.plain x) ⟨fr, m⟩ := by
  have htruthy : truthy (.plain x) ⟨fr, m⟩ = .ok x.truthy ⟨fr, m⟩ := rfl
  rw [h.bind, bind_of_ok htruthy]
  cases x.truthy <;> rfl

theorem Eval.Gives.choose {run : Eval Handle} {yes no : Handle → Eval Handle} {y z : Value}
    (h : Gives fr run x) (hyes : Gives fr (yes (.plain x)) y) (hno : Gives fr (no (.plain x)) z) :
    Gives fr (do let k ← run; if ← truthy k then yes k else no k) (if x.truthy then y else z) := by
  cases ht : x.truthy with
  | true => exact ⟨fun m => h.branch.trans (by rw [ht]; exact hyes.result m), hyes.isSimple⟩
  | false => exact ⟨fun m => h.branch.trans (by rw [ht]; exact hno.result m), hno.isSimple⟩

open Eval

theorem hasLongInteger_of_isSimple (h : x.isSimple) : x.hasLongInteger = false := by
  cases x <;> simp_all [Value.isSimple, Value.hasLongInteger, Value.holds]

theorem content_of_not_rough (h : x.isRough = false) : x.content = x.text := by
  cases x <;> simp_all [Value.isRough, Value.text, Value.content]

theorem content_of_isSimple (h : x.isSimple) : x.content = x.text :=
  content_of_not_rough (by cases x <;> simp_all [Value.isSimple, Value.isRough])

theorem chars?_of_isSimple (h : x.isSimple) : x.content.chars? = some x.text.toList := by
  rw [content_of_isSimple h, Content.chars?_ofString]

theorem isSimple_of_isWord (h : x.isWord) : x.isSimple := by
  cases x <;> simp_all [Value.isSimple, Value.isWord]

/-- A simple value has no place in the memory. -/
theorem keep_of_isSimple (h : x.isSimple) (m : Memory) : m.keep x = (.plain x, m) := by
  cases x <;> simp_all [Value.isSimple, Memory.keep]

/-! ## Steps of an evaluation -/

theorem value_of_plain (x : Value) (sc : Scope) : value (.plain x) sc = .ok x sc := by
  change EStateM.Result.ok (sc.memory.value (.plain x)) sc = _
  rw [Memory.value_plain]

section

variable (hfr : fr.IsSimple)

include hfr

theorem gives_constant (hx : x.isWord) : Gives fr (constant x) x := by
  have hinf : x.hasInfinity = false := by
    cases x <;> simp_all [Value.isWord, Value.hasInfinity, Value.holds]
  have hsimple := isSimple_of_isWord hx
  obtain ⟨template, hstage⟩ := hfr.running
  refine ⟨fun m => ?_, hsimple⟩
  have hget : (MonadState.get : Eval Scope) ⟨fr, m⟩ = .ok ⟨fr, m⟩ ⟨fr, m⟩ := rfl
  rw [constant, bind_of_ok hget, hstage, hinf]
  change change (fun m => .ok (m.keep x)) ⟨fr, m⟩ = _
  rw [change, bind_of_ok hget, keep_of_isSimple hsimple]
  rfl

theorem Frame.IsSimple.read (name : String) : (fr.read name).isSimple ∧
    (fr.slot? name).getD (.plain (.absent (.name name))) = .plain (fr.read name) := by
  unfold Frame.read
  cases hs : fr.slot? name with
  | none => exact ⟨rfl, rfl⟩
  | some h =>
    obtain ⟨x, rfl, hx⟩ := hfr.slots name h hs
    exact ⟨hx, rfl⟩

theorem gives_name (s : String) : Gives fr (name s) (fr.read s) := by
  obtain ⟨template, hstage⟩ := hfr.running
  obtain ⟨hsimple, hread⟩ := hfr.read s
  refine ⟨fun m => ?_, hsimple⟩
  have hget : (MonadState.get : Eval Scope) ⟨fr, m⟩ = .ok ⟨fr, m⟩ ⟨fr, m⟩ := rfl
  rw [name, bind_of_ok hget, hstage, ← hread]
  rfl

theorem gives_noBranch (line : Nat) : Gives fr (noBranch line) (fr.noBranch line) := by
  obtain ⟨template, hstage⟩ := hfr.running
  rw [Frame.noBranch, hstage]
  refine ⟨fun m => ?_, rfl⟩
  have hget : (MonadState.get : Eval Scope) ⟨fr, m⟩ = .ok ⟨fr, m⟩ ⟨fr, m⟩ := rfl
  rw [noBranch, bind_of_ok hget, hstage]
  rfl

end

theorem pascalCase_apply (hx : x.isSimple) :
    Filter.apply (.helper .pascalCase) x [] [] = .ok (.str (x.shape Text.pascal)) := by
  have hparams : matchArguments ["value"] [x] [] = some [some x] := rfl
  have hrough : x.isRough = false := by cases x <;> simp_all [Value.isSimple, Value.isRough]
  simp [Filter.apply, Helper.apply, Helper.parameters?, hparams, Helper.applyOne, Value.shaped,
    hrough]

theorem replace_apply (hx : x.isSimple) (old new : String) :
    Filter.apply .replace x [.str old, .str new] [] =
      .ok (.str (String.ofList (Text.replace old.toList new.toList none x.text.toList))) := by
  have hparams : matchArguments ["s", "old", "new", "count"] [x, .str old, .str new] [] =
      some [some x, some (.str old), some (.str new), none] := rfl
  have hword : ∀ s, (Value.str s).hasLongInteger = false := fun _ => rfl
  have hchars : ∀ s, (Value.str s).content.chars? = some s.toList := Content.chars?_ofString
  simp only [Filter.apply, Filter.applyReplace, hparams, hasLongInteger_of_isSimple hx, hword,
    Bool.or_self, Bool.false_eq_true, if_false, chars?_of_isSimple hx, hchars]
  rfl

theorem evalArguments_of_words (hfr : fr.IsSimple) (words : List String) (m : Memory) :
    evalArguments (words.map fun s => (none, .constant (.str s))) ⟨fr, m⟩ =
      .ok (words.map fun s => (none, .plain (.str s))) ⟨fr, m⟩ := by
  induction words with
  | nil => rfl
  | cons s words ih =>
    have hs : Gives fr (constant (.str s)) (.str s) := gives_constant hfr rfl
    change (constant (.str s) >>= _) ⟨fr, m⟩ = _
    rw [hs.bind, bind_of_ok ih]
    rfl

theorem gives_filterBy (hfr : fr.IsSimple) (words : List String) {name t : String} {f : Filter}
    (hname : Filter.ofName? name = some f) (hf : f.apply x (words.map .str) [] = .ok (.str t)) :
    Gives fr (do
      let args ← evalArguments (words.map fun s => (none, .constant (.str s)))
      Eval.filter name (.plain x) (Eval.arguments (← MonadState.get).stage args)) (.str t) := by
  have harguments : Eval.arguments fr.stage (words.map fun s => (none, .plain (.str s))) =
      ⟨words.map fun s => .plain (.str s), []⟩ := by
    clear hf
    induction words with
    | nil => rfl
    | cons s words ih =>
      exact congrArg (fun rest => (⟨.plain (.str s) :: rest.1, rest.2⟩ : Arguments)) ih
  refine ⟨fun m => ?_, rfl⟩
  have hget : (MonadState.get : Eval Scope) ⟨fr, m⟩ = .ok ⟨fr, m⟩ ⟨fr, m⟩ := rfl
  have hvalues : (words.map fun s => Handle.plain (.str s)).map m.value = words.map .str := by
    simp [Function.comp_def]
  rw [bind_of_ok (evalArguments_of_words hfr words m), bind_of_ok hget, harguments]
  simp only [Eval.filter, hname]
  rw [bind_of_ok (value_of_plain x _)]
  rw [← hvalues] at hf
  rw [applyTo, look, bind_of_ok hget]
  simp only [List.map_nil, hf]
  rfl

/-- A tame filter gives a text for every simple value. -/
theorem gives_filter (hfr : fr.IsSimple) (hx : x.isSimple) {name : String}
    {args : List (Option String × Expr)} (hf : tameFilter name args) :
    Gives fr (do
      let args ← evalArguments args
      Eval.filter name (.plain x) (Eval.arguments (← MonadState.get).stage args))
      (filterMeaning x args) := by
  have hpascal : Filter.ofName? "pascalCase" = some (.helper .pascalCase) := by decide
  have hreplace : Filter.ofName? "replace" = some .replace := by decide
  unfold tameFilter at hf
  split at hf
  · have hname : name = "pascalCase" := by simpa using hf
    subst hname
    exact gives_filterBy hfr [] hpascal (pascalCase_apply hx)
  · next old new =>
    have hname : name = "replace" := by simpa using hf
    subst hname
    exact gives_filterBy hfr [old, new] hreplace (replace_apply hx old new)
  · cases hf

/-! ## Expressions -/

theorem and_eq_true_imp {a b : Bool} (h : (a && b) = true) : a = true ∧ b = true := by
  simpa using h

theorem compareBy_of_tame {c : Comparison} (hc : c = .same ∨ c = .differs) (x y : Value) :
    (liftM (compareBy c x y) : Eval Bool) sc = .ok (compareMeaning c x y) sc := by
  rcases hc with rfl | rfl <;> rfl

mutual

/-- A tame expression gives what it means. -/
theorem Expr.gives_eval (hfr : fr.IsSimple) : ∀ e : Expr, e.isTame → Gives fr e.eval (e.meaning fr)
  | .constant x, h => gives_constant hfr h
  | .name s, _ => gives_name hfr s
  | .filter e name args, h => by
    obtain ⟨he, hf⟩ := and_eq_true_imp h
    have hx := e.gives_eval hfr he
    have hfilter := gives_filter hfr hx.isSimple hf
    rw [Expr.meaning]
    exact ⟨fun m => hx.bind.trans (hfilter.result m), hfilter.isSimple⟩
  | .not e, h => ⟨fun _ => (e.gives_eval hfr h).bind, rfl⟩
  | .and a b, h => by
    obtain ⟨ha, hb⟩ := and_eq_true_imp h
    have hx := a.gives_eval hfr ha
    exact hx.choose (b.gives_eval hfr hb) ⟨fun _ => rfl, hx.isSimple⟩
  | .or a b, h => by
    obtain ⟨ha, hb⟩ := and_eq_true_imp h
    have hx := a.gives_eval hfr ha
    exact hx.choose ⟨fun _ => rfl, hx.isSimple⟩ (b.gives_eval hfr hb)
  | .compare e rest, h => by
    obtain ⟨he, hrest⟩ := and_eq_true_imp h
    have hx := e.gives_eval hfr he
    rw [Expr.meaning]
    refine ⟨fun m => hx.bind.trans ?_, rfl⟩
    rw [bind_of_ok (evalChain_of_tame hfr _ rest hrest m)]
    rfl
  | .ifElse line test yes no, h => by
    obtain ⟨hboth, hno⟩ := and_eq_true_imp h
    obtain ⟨htest, hyes⟩ := and_eq_true_imp hboth
    exact (test.gives_eval hfr htest).choose (yes.gives_eval hfr hyes)
      (gives_evalElse hfr line no hno)

theorem evalChain_of_tame (hfr : fr.IsSimple) :
    ∀ (x : Value) (rest : List (Comparison × Expr)), tameRest rest → ∀ m,
    evalChain (.plain x) rest ⟨fr, m⟩ = .ok (chainMeaning fr x rest) ⟨fr, m⟩
  | _, [], _, _ => rfl
  | x, (c, e) :: rest, h, m => by
    obtain ⟨hboth, hrest⟩ := and_eq_true_imp h
    obtain ⟨hc, he⟩ := and_eq_true_imp hboth
    have hy := e.gives_eval hfr he
    have hcompare : (liftM (compareBy c x (e.meaning fr)) : Eval Bool) ⟨fr, m⟩ =
        .ok (compareMeaning c x (e.meaning fr)) ⟨fr, m⟩ :=
      compareBy_of_tame (by simpa using hc) x (e.meaning fr)
    unfold evalChain
    rw [hy.bind, bind_of_ok (value_of_plain x _), bind_of_ok (value_of_plain _ _),
      bind_of_ok hcompare, chainMeaning]
    cases compareMeaning c x (e.meaning fr) with
    | true => exact evalChain_of_tame hfr (e.meaning fr) rest hrest m
    | false => rfl

theorem gives_evalElse (hfr : fr.IsSimple) (line : Nat) :
    ∀ no, tameElse no → Gives fr (evalElse line no) (elseMeaning fr line no)
  | none, _ => gives_noBranch hfr line
  | some e, h => e.gives_eval hfr h

end

theorem Frame.IsSimple.put (hfr : fr.IsSimple) (name : String) {h? : Option Handle}
    (hh : ∀ h, h? = some h → ∃ x, h = .plain x ∧ x.isSimple) : (fr.put name h?).IsSimple where
  running := hfr.running
  slots other k hk := by
    by_cases hc : Text.compose other = Text.compose name
    · have hself : (fr.put name h?).slot? other = h? := by
        simp [Frame.slot?, Frame.put, hc]
      exact hh k (hself ▸ hk)
    · rw [Frame.slot?_put_of_ne fr name other h? hc] at hk
      exact hfr.slots other k hk

/-- A rendering gives this text and leaves this frame, a simple one, and the memory as it is. -/
structure Eval.Shows (fr : Frame) (run : Eval Content) (shown : String × Frame) : Prop where
  result : ∀ m, run ⟨fr, m⟩ = .ok shown.1 ⟨shown.2, m⟩
  isSimple : shown.2.IsSimple

mutual

theorem Node.shows_render : ∀ n : Node, n.isTame → ∀ fr : Frame, fr.IsSimple →
    Shows fr n.render (n.meaning fr)
  | .text _, _, fr, hfr => ⟨fun _ => rfl, hfr⟩
  | .shown x, h, fr, hfr => by
    have hx : x.content = x.text := content_of_not_rough (by simpa [Node.isTame] using h)
    refine ⟨fun m => ?_, hfr⟩
    unfold Node.render
    rw [hx]
    rfl
  | .output e, h, fr, hfr => by
    have hx := e.gives_eval hfr h
    refine ⟨fun m => ?_, hfr⟩
    unfold Node.render
    rw [hx.bind, bind_of_ok (value_of_plain _ _), hasLongInteger_of_isSimple hx.isSimple,
      content_of_isSimple hx.isSimple]
    rfl
  | .assign s e, h, fr, hfr => by
    have hx := e.gives_eval hfr h
    rw [Node.meaning]
    exact ⟨fun _ => hx.bind, hfr.put s (by rintro _ ⟨⟩; exact ⟨_, rfl, hx.isSimple⟩)⟩
  | .branch arms otherwise, h, fr, hfr => by
    obtain ⟨harms, hotherwise⟩ := and_eq_true_imp h
    rw [Node.meaning]
    exact shows_renderArms fr hfr (shows_renderNodes otherwise hotherwise fr hfr) arms harms

theorem shows_renderArms (fr : Frame) (hfr : fr.IsSimple) {otherwise : Eval Content}
    {shown : String × Frame} (ho : Shows fr otherwise shown) :
    ∀ arms, tameArms arms → Shows fr (renderArms otherwise arms) (armsMeaning fr shown arms)
  | [], _ => ho
  | (test, nodes) :: arms, h => by
    obtain ⟨hboth, harms⟩ := and_eq_true_imp h
    obtain ⟨htest, hnodes⟩ := and_eq_true_imp hboth
    have hx := test.gives_eval hfr htest
    have hyes := shows_renderNodes nodes hnodes fr hfr
    have hno := shows_renderArms fr hfr ho arms harms
    rw [armsMeaning]
    refine ⟨fun m => hx.branch.trans ?_, ?_⟩
    · split
      · exact hyes.result m
      · exact hno.result m
    · split
      · exact hyes.isSimple
      · exact hno.isSimple

theorem shows_renderNodes : ∀ ns, tameNodes ns → ∀ fr : Frame, fr.IsSimple →
    Shows fr (renderNodes ns) (nodesMeaning fr ns)
  | [], _, fr, hfr => ⟨fun _ => rfl, hfr⟩
  | n :: ns, h, fr, hfr => by
    obtain ⟨hn, hns⟩ := and_eq_true_imp h
    have hfirst := n.shows_render hn fr hfr
    have hrest := shows_renderNodes ns hns _ hfirst.isSimple
    refine ⟨fun m => ?_, hrest.isSimple⟩
    unfold renderNodes
    rw [bind_of_ok (hfirst.result m), bind_of_ok (hrest.result m), nodesMeaning,
      Content.ofString_append]
    rfl

end

/-! ## Trees -/

/-- Data of simple values, none under the name of the template itself. -/
def Data.isSimple (data : Data) : Bool :=
  data.all fun field => field.1 ≠ selfName && field.2.isSimple

theorem lookup_isSimple {data : Data} (hd : data.isSimple) {name : String}
    (hx : data.lookup name = some x) : name ≠ selfName ∧ x.isSimple := by
  obtain ⟨l₁, l₂, hl, -⟩ := List.lookup_eq_some_iff.mp hx
  have hfield := List.all_eq_true.mp hd (name, x) (by rw [hl]; simp)
  simpa using hfield

theorem lookup_selfName {data : Data} (hd : data.isSimple) : data.lookup selfName = none := by
  cases h : data.lookup selfName with
  | none => rfl
  | some x => exact absurd rfl (lookup_isSimple hd h).1

theorem builtin_isSimple {name : String} (hn : name ≠ "helpers") {h : Handle}
    (hh : builtin? name = some h) : ∃ x, h = .plain x ∧ x.isSimple := by
  rw [builtin?, if_neg hn, Option.map_eq_some_iff] at hh
  obtain ⟨helper, -, rfl⟩ := hh
  exact ⟨_, rfl, rfl⟩

/-- What the slot is filled with from these data is simple, if it is filled at all. -/
structure Slot.StartsSimple (slot : Slot) (data : Data) : Prop where
  not_template : slot.origin ≠ .template
  isSimple : ∀ x, data.lookup slot.name = some x → x.isSimple
  builtin : data.lookup slot.name = none → ∀ h, builtin? slot.name = some h →
    ∃ x, h = .plain x ∧ x.isSimple

theorem startsSimple_of_isTame {data : Data} {slot : Slot} (hd : data.isSimple)
    (hs : slot.isTame) : slot.StartsSimple data := by
  have hslot : slot.origin ≠ .template ∧ slot.name ≠ "helpers" := by
    simpa [Slot.isTame] using hs
  exact ⟨hslot.1, fun x hx => (lookup_isSimple hd hx).2, fun _ h => builtin_isSimple hslot.2⟩

theorem fill_isSimple {template : String} {data : Data} {slot : Slot} (hfr : fr.IsSimple)
    (hs : slot.StartsSimple data) : (Frame.fill template data fr slot).IsSimple := by
  refine hfr.put _ fun h hh => ?_
  split at hh
  · next ho => exact absurd ho hs.not_template
  · cases hh
  · cases hx : data.lookup slot.name with
    | some x =>
      rw [hx] at hh
      cases hh
      exact ⟨x, rfl, hs.isSimple x hx⟩
    | none =>
      rw [hx] at hh
      exact hs.builtin hx h hh

/-- Simple values are put into slots without a place in the memory. -/
theorem fill_eq {template : String} {data : Data} {slot : Slot} (hs : slot.StartsSimple data)
    (m : Memory) :
    Scope.fill template data ⟨fr, m⟩ slot = ⟨Frame.fill template data fr slot, m⟩ := by
  cases ho : slot.origin with
  | template => exact absurd ho hs.not_template
  | nowhere => simp only [Scope.fill, Frame.fill, ho]
  | data =>
    cases hx : data.lookup slot.name with
    | some x => simp only [Scope.fill, Frame.fill, ho, hx, keep_of_isSimple (hs.isSimple x hx)]; rfl
    | none => simp only [Scope.fill, Frame.fill, ho, hx]; rfl

theorem start_eq (template : String) {data : Data} {slots : List Slot}
    (hs : ∀ slot ∈ slots, slot.StartsSimple data) (m : Memory) :
    Scope.start template slots data m = ⟨Frame.start template slots data, m⟩ ∧
      (Frame.start template slots data).IsSimple := by
  have hfold : ∀ (slots : List Slot) (fr : Frame), (∀ slot ∈ slots, slot.StartsSimple data) →
      fr.IsSimple → slots.foldl (Scope.fill template data) ⟨fr, m⟩ =
          ⟨slots.foldl (Frame.fill template data) fr, m⟩ ∧
        (slots.foldl (Frame.fill template data) fr).IsSimple := by
    intro slots
    induction slots with
    | nil => exact fun fr _ hfr => ⟨rfl, hfr⟩
    | cons slot slots ih =>
      intro fr hall hfr
      obtain ⟨hslot, hrest⟩ := List.forall_mem_cons.mp hall
      rw [List.foldl_cons, fill_eq hslot]
      exact ih _ hrest (fill_isSimple hfr hslot)
  refine hfold slots _ hs ⟨⟨template, rfl⟩, fun name h hh => ?_⟩
  simp [Frame.slot?] at hh

theorem slot?_fill_of_ne {template name : String} {data : Data} {slot : Slot}
    (h : Text.compose name ≠ Text.compose slot.name) :
    (Frame.fill template data fr slot).slot? name = fr.slot? name :=
  Frame.slot?_put_of_ne fr slot.name name _ h

/-- A name that the data have a value for starts with it, if its slot is the only one for it. -/
theorem read_start {template name : String} {data : Data} {slots : List Slot}
    (hslot : ⟨name, .data⟩ ∈ slots)
    (hnames : (slots.map fun slot => Text.compose slot.name).Nodup)
    (hx : data.lookup name = some x) : (Frame.start template slots data).read name = x := by
  -- What a slot was filled with stays, since no later slot has the same composed name.
  have hother : ∀ (slots : List Slot) (fr : Frame),
      Text.compose name ∉ slots.map (fun slot => Text.compose slot.name) →
      (slots.foldl (Frame.fill template data) fr).slot? name = fr.slot? name := by
    intro slots
    induction slots with
    | nil => exact fun _ _ => rfl
    | cons slot slots ih =>
      intro fr hn
      rw [List.map_cons, List.mem_cons, not_or] at hn
      rw [List.foldl_cons, ih _ hn.2, slot?_fill_of_ne hn.1]
  have hself : ∀ (slots : List Slot) (fr : Frame), ⟨name, .data⟩ ∈ slots →
      (slots.map fun slot => Text.compose slot.name).Nodup →
      (slots.foldl (Frame.fill template data) fr).slot? name = some (.plain x) := by
    intro slots
    induction slots with
    | nil => exact fun _ h => absurd h List.not_mem_nil
    | cons slot slots ih =>
      intro fr hmem hnd
      obtain ⟨hfirst, hrest⟩ := List.nodup_cons.mp hnd
      rw [List.foldl_cons]
      rcases List.mem_cons.mp hmem with rfl | hmem
      · rw [hother slots _ hfirst, Frame.fill, Frame.slot?_put_self, hx]
        rfl
      · exact ih _ hmem hrest
  rw [Frame.read, Frame.start, hself slots _ hslot hnames]

/-- Tame nodes render as what they mean, if all names start with simple values. -/
theorem Tree.render_of_startsSimple {t : Tree} {data : Data} (hnodes : tameNodes t.nodes)
    (hself : data.lookup selfName = none) (hs : ∀ slot ∈ t.slots, slot.StartsSimple data)
    (m : Memory) : t.render data m = (.ok (t.meaning data), m) := by
  obtain ⟨hstart, hsimple⟩ := start_eq t.name hs m
  have hshows := shows_renderNodes t.nodes hnodes _ hsimple
  rw [Tree.render, hself]
  simp only [Option.isSome_none, Bool.false_eq_true, if_false]
  rw [hstart, hshows.result m]
  rfl

/-- **Tame templates render.** From simple data a tame template gives the text that it means,
whatever was rendered before, and leaves the memory as it is. -/
theorem Tree.render_of_tame {t : Tree} (ht : t.isTame) {data : Data} (hd : data.isSimple)
    (m : Memory) : t.render data m = (.ok (t.meaning data), m) := by
  obtain ⟨hslots, hnodes⟩ := and_eq_true_imp ht
  exact t.render_of_startsSimple hnodes (lookup_selfName hd) (fun slot hslot =>
    startsSimple_of_isTame hd (List.all_eq_true.mp hslots slot hslot)) m

/-- Data that agree on the names of a template mean the same text. -/
theorem Tree.meaning_congr {t : Tree} {data data' : Data}
    (h : ∀ slot ∈ t.slots, data.lookup slot.name = data'.lookup slot.name) :
    t.meaning data = t.meaning data' := by
  have hfold : ∀ (slots : List Slot) (fr : Frame),
      (∀ slot ∈ slots, data.lookup slot.name = data'.lookup slot.name) →
      slots.foldl (Frame.fill t.name data) fr = slots.foldl (Frame.fill t.name data') fr := by
    intro slots
    induction slots with
    | nil => exact fun _ _ => rfl
    | cons slot slots ih =>
      intro fr hall
      obtain ⟨hslot, hrest⟩ := List.forall_mem_cons.mp hall
      have hfill : Frame.fill t.name data fr slot = Frame.fill t.name data' fr slot := by
        unfold Frame.fill
        rw [hslot]
      rw [List.foldl_cons, List.foldl_cons, hfill]
      exact ih _ hrest
  rw [Tree.meaning, Tree.meaning, Frame.start, Frame.start, hfold t.slots _ h]

end Scaffold.Template
