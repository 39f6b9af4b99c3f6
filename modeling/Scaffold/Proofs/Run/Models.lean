import Scaffold.Proofs.Blueprint.Names
import Scaffold.Proofs.Run.Fresh
import Scaffold.Proofs.Run.Schema
import Scaffold.Proofs.Template.Schema

/-!
# The model of a project

A project that wants a schema gets one that declares a single model, whatever the project is called:
its name in title case, with `Health` behind it. That is made of letters and digits, but a model
must begin with a letter, and where the first word of the name begins with a digit, so does the
model (`schema_model`).
-/

namespace Scaffold

open Store Template
open Run (World)

/-- What a schema may call a model: letters, digits and low lines of ASCII, with a letter first. -/
structure IsModelName (name : List Char) : Prop where
  first : ∃ c rest, name = c :: rest ∧ c.isAlpha = true
  chars : ∀ c ∈ name, c.isAlphanum = true ∨ c = '_'

namespace Blueprint

/-- The model that the schema of a project is to declare. -/
def model (b : Blueprint) : List Char := Text.pascal b.name.toList ++ "Health".toList

def initial? (b : Blueprint) : Option Char := b.name.toList.find? fun c => !Text.isWordSeparator c

end Blueprint

variable {b : Blueprint} {cs : List Char} {c : Char}

/-! ## Names of projects in title case -/

def isLowerOrDigit (c : Char) : Bool := c.isLower || c.isDigit

theorem toUpper_ascii : ∀ n < 128, isLowerOrDigit (Char.ofNat n) = true →
    (Char.ofNat n).toUpper.isAlphanum = true ∧ (Char.ofNat n).isAlphanum = true ∧
      ((Char.ofNat n).toUpper.isAlpha = !(Char.ofNat n).isDigit) := by
  decide

theorem toUpper_of_isLowerOrDigit (h : isLowerOrDigit c = true) :
    c.toUpper.isAlphanum = true ∧ c.isAlphanum = true ∧ c.toUpper.isAlpha = !c.isDigit := by
  have hc := toUpper_ascii c.toNat (Text.toNat_lt_of_ascii h)
  rw [Char.ofNat_toNat] at hc
  exact hc h

theorem titleWord_ascii (h : ∀ d ∈ c :: cs, isLowerOrDigit d = true) :
    Text.titleWord (c :: cs) = c.toUpper :: cs := by
  obtain ⟨hc, hcs⟩ := List.forall_mem_cons.mp h
  rw [Text.titleWord, Text.upperChar_ascii hc, Text.lower_ascii hcs]
  rfl

theorem pascal_isAlphanum
    (h : ∀ c ∈ cs, Text.isWordSeparator c = false → isLowerOrDigit c = true) :
    ∀ d ∈ Text.pascal cs, d.isAlphanum = true := by
  intro d hd
  obtain ⟨word, hword, hin⟩ := List.mem_flatMap.mp hd
  have hchars : ∀ c ∈ word, isLowerOrDigit c = true := fun c hc =>
    have hmem := Text.of_mem_words hword c hc
    h c hmem.1 hmem.2
  cases word with
  | nil => cases hin
  | cons c word =>
    rw [titleWord_ascii hchars] at hin
    obtain ⟨hc, hrest⟩ := List.forall_mem_cons.mp hchars
    rcases List.mem_cons.mp hin with rfl | hin
    · exact (toUpper_of_isLowerOrDigit hc).1
    · exact (toUpper_of_isLowerOrDigit (hrest d hin)).2.1

theorem name_chars (b : Blueprint) :
    ∀ c ∈ b.name.toList, Text.isWordSeparator c = false → isLowerOrDigit c = true := by
  have hclean : ∀ name, IsCleanName name → ∀ c ∈ name.toList, Text.isWordSeparator c = false →
      isLowerOrDigit c = true := by
    intro name hname c hc hword
    have hchar := isNameChar_iff.mpr (hname.chars c hc)
    simp only [Text.isWordSeparator, Bool.or_eq_false_iff] at hword
    simpa [isNameChar, isLowerOrDigit, hword.1.1, hword.1.2] using hchar
  have haccepted := (Choices.broken?_eq_none_iff.mp b.accepted).2.2.1
  rcases isAcceptedName_iff.mp haccepted with hname | ⟨clean, hname, hfeed⟩
  · exact hclean _ hname
  · -- The line feed that a name may end in parts words, so it is in none of them.
    intro c hc hword
    rw [Blueprint.name, hfeed, String.toList_append, List.mem_append] at hc
    rcases hc with hc | hc
    · exact hclean clean hname c hc hword
    · rw [show "\n".toList = ['\n'] from rfl, List.mem_singleton] at hc
      subst hc
      cases hword

theorem health_chars : "Health".toList.all Char.isAlphanum = true := by decide

theorem model_isAlphanum (b : Blueprint) : ∀ c ∈ b.model, c.isAlphanum = true := by
  intro c hc
  rcases List.mem_append.mp hc with hc | hc
  · exact pascal_isAlphanum (name_chars b) c hc
  · exact List.all_eq_true.mp health_chars c hc

/-- A project with a word in its name has a model that begins with the first character of it. -/
theorem exists_model_eq (hword : ∃ c ∈ b.name.toList, Text.isWordSeparator c = false) :
    ∃ c rest, b.initial? = some c ∧ isLowerOrDigit c = true ∧ b.model = c.toUpper :: rest := by
  obtain ⟨s, c, rest, hname, hs, hc⟩ := Text.exists_first_word hword
  have hchar : isLowerOrDigit c = true := name_chars b c (by rw [hname]; simp) hc
  obtain ⟨later, hlater⟩ := Text.pascal_cons hc rest
  refine ⟨c, later ++ "Health".toList, ?_, hchar, ?_⟩
  · have hskip : s.find? (fun c => !Text.isWordSeparator c) = none :=
      List.find?_eq_none.mpr fun d hd => by simp [hs d hd]
    rw [Blueprint.initial?, hname, List.find?_append, hskip, Option.none_or]
    exact List.find?_cons_of_pos (by simp [hc])
  · rw [Blueprint.model, hname, Text.pascal_separators_append hs, hlater,
      Text.upperChar_ascii hchar]
    rfl

theorem model_of_no_word (hword : ∀ c ∈ b.name.toList, Text.isWordSeparator c = true) :
    b.initial? = none ∧ b.model = "Health".toList := by
  constructor
  · exact List.find?_eq_none.mpr fun c hc => by simp [hword c hc]
  · have hpascal := Text.pascal_separators_append hword []
    rw [List.append_nil, Text.pascal_nil] at hpascal
    rw [Blueprint.model, hpascal]
    rfl

/-- The model has a proper name just when the project's first word does not begin with a digit. -/
theorem isModelName_iff (b : Blueprint) :
    IsModelName b.model ↔ ∀ c, b.initial? = some c → c.isDigit = false := by
  have hchars : ∀ c ∈ b.model, c.isAlphanum = true ∨ c = '_' := fun c hc =>
    .inl (model_isAlphanum b c hc)
  by_cases hword : ∃ c ∈ b.name.toList, Text.isWordSeparator c = false
  · obtain ⟨c, rest, hinitial, hchar, hmodel⟩ := exists_model_eq hword
    have halpha := (toUpper_of_isLowerOrDigit hchar).2.2
    rw [hinitial]
    constructor
    · rintro ⟨⟨d, others, hd, hfirst⟩, -⟩ _ ⟨⟩
      rw [hmodel] at hd
      cases hd
      simpa [halpha] using hfirst
    · intro h
      exact ⟨⟨_, _, hmodel, by rw [halpha, h c rfl]; rfl⟩, hchars⟩
  · have hnone : ∀ c ∈ b.name.toList, Text.isWordSeparator c = true := by
      simpa using hword
    obtain ⟨hinitial, hmodel⟩ := model_of_no_word hnone
    rw [hinitial]
    refine iff_of_true ⟨?_, hchars⟩ nofun
    exact ⟨'H', "ealth".toList, hmodel, by decide⟩

/-! ## The schema of a project -/

namespace Blueprint

def schemaText (b : Blueprint) : String := Template.schemaText b.name b.database.word

end Blueprint

variable {lib : Library engine} {s : Store} {opts : Options} {world world' : World engine}
  {record : Record}

theorem render_schema (h : lib.HasBundled s) (b : Blueprint) :
    (lib.render s "db/prisma-schema.j2" b.site.defaults).1 = .ok b.schemaText := by
  have hmem : ("db/prisma-schema.j2", Bundled.prismaSchema) ∈ Bundled.templates := by
    simp [Bundled.templates]
  refine render_of_compile h hmem compile_prismaSchema (by decide) ?_
  exact meaning_schemaTree ((lookup_defaults b _).trans rfl) ((lookup_defaults b _).trans rfl)

theorem declaredModels_schema (b : Blueprint) : declaredModels b.schemaText.toList = [b.model] := by
  have hdatabase : '\n' ∉ b.database.word.toList := by
    cases b.database <;> decide
  have hclean : ∀ name, IsCleanName name → '\n' ∉ name.toList := fun name hname hin =>
    not_isCleanChar_lineFeed (hname.chars _ hin)
  rcases isAcceptedName_iff.mp (Choices.broken?_eq_none_iff.mp b.accepted).2.2.1 with
    hname | ⟨clean, hname, hfeed⟩
  · exact declaredModels_schemaText (hclean _ hname) (.inl rfl) hdatabase
  · refine declaredModels_schemaText (hclean _ hname) (.inr ?_) hdatabase
    rw [Blueprint.name, hfeed, String.toList_append]
    rfl

theorem hasBundled_runAll {site : Site} {ts : List Task} {w w' : Workshop engine}
    (hroot : site.root.IsPlain) (hts : AreTidy site ts) (hs : w.store.IsPlain)
    (hw : w.library.HasBundled w.store) (h : site.runAll ts w = (.ok (), w')) :
    w'.library.HasBundled w'.store := by
  have hfollows := runAll_follows hroot hts.tidy hs hw.current h
  exact hw.of_spares hfollows.root (hfollows.builtOn hts.spares).spares hfollows.keeps hs.linkless
    hfollows.current

/-- The last task writes the schema where none is. -/
theorem schemaTask_content {w w' : Workshop engine} (hr : b.site.root.IsPlain)
    (hs : w.store.IsPlain)
    (hw : w.library.HasBundled w.store) (hnone : w.store.at? b.schema.loc = none)
    (h : schemaTask.run b.site w = (.ok (), w')) :
    w'.store.at? b.schema.loc = some (.file b.schemaText.toUTF8) := by
  have hdemand : b.site.demand? w schemaTask.command =
      some (Recipe.schemaPath, .file b.schemaText.toUTF8) :=
    demand?_of_render (render_schema hw b)
  unfold Task.run at h
  rw [if_pos (show schemaTask.optional = true from rfl)] at h
  split at h
  · cases h
  · next hthere =>
    have hsome := exists?_true hs (Path.child_isPlain hr schema_isInner) hthere
    change (w.store.at? b.schema.loc).isSome at hsome
    rw [hnone] at hsome
    cases hsome
  · obtain ⟨a, ha⟩ := runCommand_ok.mp h
    exact (perform_placed hr schema_isInner hs hdemand ha).here

/-- What a run goes through to write is the schema of the project. -/
theorem schema_content (hs : world.store.IsPlain) (hroot : ".." ∉ b.site.root.names)
    (hbundled : world.library.HasBundled world.store) (hwants : b.WantsSchema)
    (hnone : world.store.at? b.schema.loc = none)
    (h : Run.scaffold opts b Recipe.standard world = (.ok record, world')) :
    world'.store.at? b.schema.loc = some (.file b.schemaText.toUTF8) := by
  have hr := site_root_isPlain b hroot
  obtain ⟨-, hprogress, -⟩ := scaffold_ok_iff.mp h
  have hrun := runAll_of_progress hprogress
  -- The schema comes last: no task before it writes there, and all of them leave the templates.
  obtain ⟨others, htasks, -, hne⟩ := tasks_eq_concat b
  have hothers : ∀ t ∈ others, t ∈ b.tasks ∧ t.path ≠ Recipe.schemaPath := fun t ht =>
    ⟨by rw [htasks]; exact List.mem_append_left _ ht, hne t ht⟩
  have htidy : AreTidy b.site others :=
    { tidy := fun t ht => (tasks_areTidy b b.site).tidy t (hothers t ht).1
      nodup := by
        have hnodup := (tasks_areTidy b b.site).nodup
        rw [htasks, List.map_append] at hnodup
        exact (List.nodup_append.mp hnodup).1 }
  rw [htasks, if_pos hwants, runAll_append] at hrun
  split at hrun
  · next w hw =>
    obtain ⟨hplain, -, hview⟩ := runAll_spares_schema hr hs hothers hw
    rw [Site.runAll] at hrun
    split at hrun
    · next w' hlast =>
      cases hrun
      exact schemaTask_content hr hplain (hasBundled_runAll hr htidy hs hbundled hw)
        (hview.trans hnone) hlast
    · cases hrun
  · cases hrun

/-- **Every schema declares one model, and its name is proper if it does not begin with a digit.**
For every project that wants a schema the bundled template renders, whatever is kept of it, and a
run that finds no schema and goes through leaves what was rendered. This declares a single model:
the name of the project in title case, with `Health` behind it, all letters and digits. -/
theorem schema_model (hwants : b.WantsSchema) : ∃ text : String,
    (∀ (lib : Library engine) (s : Store), lib.HasBundled s →
      (lib.render s "db/prisma-schema.j2" b.site.defaults).1 = .ok text) ∧
    (∀ opts world record world', world.store.IsPlain → ".." ∉ b.site.root.names →
      world.library.HasBundled world.store → world.store.at? b.schema.loc = none →
      Run.scaffold opts b Recipe.standard world = (.ok record, world') →
      world'.store.at? b.schema.loc = some (.file text.toUTF8)) ∧
    declaredModels text.toList = [b.model] ∧ (∀ c ∈ b.model, c.isAlphanum = true) ∧
    (IsModelName b.model ↔ ∀ c, b.initial? = some c → c.isDigit = false) :=
  ⟨b.schemaText, fun _ _ h => render_schema h b,
    fun _ _ _ _ hs hroot hbundled hnone h => schema_content hs hroot hbundled hwants hnone h,
    declaredModels_schema b, model_isAlphanum b, isModelName_iff b⟩

def wordProject : Blueprint :=
  ⟨⟨"_my-2nd_app\n", .typescript, .esm, .postgres, .prisma, "/srv/new"⟩, by decide⟩

def numberProject : Blueprint :=
  ⟨⟨"-1", .javascript, .esm, .mysql, .prisma, "/srv/new"⟩, by decide⟩

/-- A run for a project goes through and leaves a schema that declares one model, of this name. -/
def GetsModel (b : Blueprint) (name : String) : Prop :=
  ∃ record after, Run.scaffold .default b Recipe.standard freeWorld = (.ok record, after) ∧
    ∃ text : String, after.store.at? b.schema.loc = some (.file text.toUTF8) ∧
      declaredModels text.toList = [name.toList]

theorem schema_model_of_two :
    (GetsModel wordProject "My2ndAppHealth" ∧ IsModelName "My2ndAppHealth".toList) ∧
      GetsModel numberProject "1Health" ∧ ¬ IsModelName "1Health".toList := by
  have hplain : ∀ c ∈ freeBlueprint.site.root.text.toList, Markup.Tag.IsPlainChar c :=
    Markup.Tag.isPlainChar_of_all (by decide)
  have hnone : ∀ b, IsFresh b freeWorld → freeWorld.store.at? b.schema.loc = none := fun b h =>
    h.none_below (by rw [schema_loc]; exact List.suffix_append _ _)
  constructor
  · have hfresh : IsFresh wordProject freeWorld := isFresh_of_root rfl
    have hmodel : wordProject.model = "My2ndAppHealth".toList := by decide
    have hinitial : wordProject.initial? = some 'm' := by decide
    obtain ⟨record, after, hrun⟩ := hfresh.exists_ok .default hplain
    obtain ⟨text, -, hthere, hmodels, -, hname⟩ := @schema_model wordProject (by decide)
    rw [hmodel] at hmodels hname
    refine ⟨⟨record, after, hrun, text, hthere _ _ _ _ hfresh.plain hfresh.inward hfresh.bundled
      (hnone _ hfresh) hrun, hmodels⟩, hname.mpr ?_⟩
    rw [hinitial]
    rintro _ ⟨⟩
    decide
  · have hfresh : IsFresh numberProject freeWorld := isFresh_of_root rfl
    have hmodel : numberProject.model = "1Health".toList := by decide
    have hinitial : numberProject.initial? = some '1' := by decide
    obtain ⟨record, after, hrun⟩ := hfresh.exists_ok .default hplain
    obtain ⟨text, -, hthere, hmodels, -, hname⟩ := @schema_model numberProject (by decide)
    rw [hmodel] at hmodels hname
    refine ⟨⟨record, after, hrun, text, hthere _ _ _ _ hfresh.plain hfresh.inward hfresh.bundled
      (hnone _ hfresh) hrun, hmodels⟩, fun h => ?_⟩
    have hdigit := hname.mp h '1' hinitial
    revert hdigit
    decide

end Scaffold
