import Scaffold.Proofs.Template.Likeness
import Scaffold.Proofs.Text.Words

/-!
# The template of the schema

The text that the template of the Prisma schema gives (`meaning_schemaTree`), and the names of the
models that such a text declares: there is one of them, the name of the project in title case with
`Health` behind it (`declaredModels_schemaText`).
-/

namespace Scaffold.Template

/-- The lines before the provider. -/
def schemaHead : String := "\n".intercalate [
  "// Docs: https://pris.ly/d/prisma-schema",
  "",
  "generator client \x7b",
  "  provider = \"prisma-client-js\"",
  "\x7d",
  "",
  "datasource db \x7b"]

/-- The lines between the provider and the model. -/
def schemaSource : String := "\n".intercalate [
  "  url               = env(\"DATABASE_URL\")",
  "  shadowDatabaseUrl = env(\"SHADOW_DATABASE_URL\")",
  "\x7d",
  ""]

/-- The lines in the model. -/
def schemaFields : String := "\n".intercalate [
  "  id        Int      @id @default(autoincrement())",
  "  checkedAt DateTime @default(now())",
  "\x7d",
  ""]

/-- What the template puts down for the provider. -/
def providerExpr : Expr :=
  .ifElse 9 (.compare (.name "database") [(.same, .constant (.str "postgres"))])
    (.constant (.str "postgresql")) (some (.name "database"))

def schemaTree : Tree where
  name := "db/prisma-schema.j2"
  slots := [⟨"project_name", .data⟩, ⟨"database", .data⟩]
  nodes := [
    .text "// Prisma schema for ",
    .output (.name "project_name"),
    .text ("\n" ++ schemaHead ++ "\n  provider          = \""),
    .output providerExpr,
    .text ("\"\n" ++ schemaSource ++ "\nmodel "),
    .output (.filter (.name "project_name") "pascalCase" []),
    .text ("Health \x7b\n" ++ schemaFields)]

theorem compile_prismaSchema :
    Tree.ofSource "db/prisma-schema.j2" (sourceOf Bundled.prismaSchema) = .ok schemaTree := by
  apply compile_of_spells
  · simp only [Bundled.prismaSchema]
    repeat' first | exact .nil | apply Spells.cons rfl
  · decide +kernel

/-! ## The text -/

def provider (database : String) : String :=
  if database = "postgres" then "postgresql" else database

def schemaText (name database : String) : String :=
  "// Prisma schema for " ++ name ++ "\n" ++ schemaHead ++
    "\n  provider          = \"" ++ provider database ++ "\"\n" ++ schemaSource ++
    "\nmodel " ++ String.ofList (Text.pascal name.toList) ++ "Health \x7b\n" ++ schemaFields

variable {name database : String} {line first word rest model : List Char}

theorem meaning_providerExpr {fr : Frame} (hb : fr.read "database" = .str database) :
    providerExpr.meaning fr = .str (provider database) := by
  have hsame : compareMeaning .same (.str database) (.str "postgres") =
      decide (database = "postgres") := by
    rw [compareMeaning, if_pos rfl, Value.same]
  rw [providerExpr, provider]
  simp only [Expr.meaning, elseMeaning, chainMeaning, hb, hsame, Bool.and_true, Value.truthy,
    decide_eq_true_eq]
  split <;> rfl

theorem meaning_schemaTree {data : Data}
    (hname : data.lookup "project_name" = some (.str name))
    (hdatabase : data.lookup "database" = some (.str database)) :
    schemaTree.meaning data = schemaText name database := by
  have hslots : (schemaTree.slots.map fun slot => Text.compose slot.name).Nodup := by
    decide
  have hn : (Frame.start schemaTree.name schemaTree.slots data).read "project_name" = .str name :=
    read_start (by decide) hslots hname
  have hb : (Frame.start schemaTree.name schemaTree.slots data).read "database" = .str database :=
    read_start (by decide) hslots hdatabase
  rw [Tree.meaning]
  -- From here on it only matters what the two names read as.
  generalize Frame.start schemaTree.name schemaTree.slots data = fr at hn hb
  unfold schemaText
  simp only [schemaTree, nodesMeaning, Node.meaning, meaning_providerExpr hb, Expr.meaning,
    filterMeaning, hn, Value.text_str, Value.shape, String.append_empty, String.append_assoc]

/-! ## Declarations -/

def wordsOf (line : List Char) : List (List Char) := (line.splitOn ' ').filter (!·.isEmpty)

/-- The name of the model that a line declares: the word behind `model`, if that comes first. -/
def declaredModel? (line : List Char) : Option (List Char) :=
  match wordsOf line with
  | first :: name :: _ => if first = "model".toList then some name else none
  | _ => none

def declaredModels (text : List Char) : List (List Char) :=
  (text.splitOn '\n').filterMap declaredModel?

theorem wordsOf_append_blank (a b : List Char) :
    wordsOf (a ++ ' ' :: b) = wordsOf a ++ wordsOf b := by
  have hsplit : (a ++ ' ' :: b).splitOn ' ' = a.splitOn ' ' ++ b.splitOn ' ' :=
    List.splitOnP_append_cons a b (beq_self_eq_true ' ')
  rw [wordsOf, hsplit, List.filter_append]
  rfl

theorem declaredModels_append_lineFeed (a b : List Char) :
    declaredModels (a ++ '\n' :: b) = declaredModels a ++ declaredModels b := by
  have hsplit : (a ++ '\n' :: b).splitOn '\n' = a.splitOn '\n' ++ b.splitOn '\n' :=
    List.splitOnP_append_cons a b (beq_self_eq_true '\n')
  rw [declaredModels, hsplit, List.filterMap_append]
  rfl

theorem declaredModels_line (h : '\n' ∉ line) :
    declaredModels line = (declaredModel? line).toList := by
  rw [declaredModels, List.splitOn_eq_singleton h, List.filterMap_cons]
  cases declaredModel? line <;> rfl

theorem declaredModels_other (h : wordsOf first = [word]) (hne : word ≠ "model".toList)
    (hfeeds : '\n' ∉ first ++ ' ' :: rest) : declaredModels (first ++ ' ' :: rest) = [] := by
  have hnone : declaredModel? (first ++ ' ' :: rest) = none := by
    rw [declaredModel?, wordsOf_append_blank, h]
    cases wordsOf rest with
    | nil => rfl
    | cons name others => exact if_neg hne
  rw [declaredModels_line hfeeds, hnone]
  rfl

def titleLine (name : List Char) : List Char :=
  "//".toList ++ ' ' :: ("Prisma schema for ".toList ++ name)

def providerLine (database : String) : List Char :=
  "  provider".toList ++ ' ' :: ("         = \"".toList ++ (provider database).toList ++ ['"'])

def modelLine (model : List Char) : List Char :=
  "model".toList ++ ' ' :: (model ++ ' ' :: ['\x7b'])

theorem toList_schemaText : (schemaText name database).toList =
    titleLine name.toList ++ '\n' :: (schemaHead.toList ++ '\n' :: (providerLine database ++ '\n' ::
      (schemaSource.toList ++ '\n' :: (modelLine (Text.pascal name.toList ++ "Health".toList) ++
        '\n' :: schemaFields.toList)))) := by
  unfold schemaText titleLine providerLine modelLine
  simp

/-- The lines that are the same in every schema declare nothing. -/
theorem declaredModels_fixed : declaredModels schemaHead.toList = [] ∧
    declaredModels schemaSource.toList = [] ∧ declaredModels schemaFields.toList = [] := by
  have hintercalate : ∀ ls : List String, ("\n".intercalate ls).toList =
      ['\n'].intercalate (ls.map String.toList) := fun _ => String.toList_intercalate
  simp only [schemaHead, schemaSource, schemaFields, hintercalate, List.map_cons, List.map_nil]
  decide

/-- The title declares nothing, even where a line feed ends the name. -/
theorem declaredModels_titleLine (h : '\n' ∉ word) (hname : line = word ∨ line = word ++ ['\n']) :
    declaredModels (titleLine line) = [] := by
  have hfirst : wordsOf "//".toList = ["//".toList] := by decide
  have hline : declaredModels (titleLine word) = [] := by
    unfold titleLine
    exact declaredModels_other hfirst (by decide) (by simp [h])
  rcases hname with rfl | rfl
  · exact hline
  · have hend := declaredModels_append_lineFeed (titleLine word) []
    rw [hline] at hend
    exact hend.trans rfl

theorem declaredModels_providerLine (h : '\n' ∉ database.toList) :
    declaredModels (providerLine database) = [] := by
  have hfirst : wordsOf "  provider".toList = ["provider".toList] := by decide
  have hprovider : '\n' ∉ (provider database).toList := by
    unfold provider
    split
    · decide
    · exact h
  unfold providerLine
  exact declaredModels_other hfirst (by decide) (by simp [hprovider])

theorem declaredModels_modelLine (h : ' ' ∉ model) (hfeeds : '\n' ∉ model) (hne : model ≠ []) :
    declaredModels (modelLine model) = [model] := by
  have hfirst : wordsOf "model".toList = ["model".toList] := by decide
  have hmodel : wordsOf model = [model] := by
    rw [wordsOf, List.splitOn_eq_singleton h]
    simpa using hne
  have hline : '\n' ∉ modelLine model := by
    unfold modelLine
    simp [hfeeds]
  have hdeclared : declaredModel? (modelLine model) = some model := by
    unfold modelLine
    rw [declaredModel?, wordsOf_append_blank, wordsOf_append_blank, hfirst, hmodel]
    rfl
  rw [declaredModels_line hline, hdeclared]
  rfl

theorem declaredModels_schemaText (h : '\n' ∉ word)
    (hname : name.toList = word ∨ name.toList = word ++ ['\n']) (hd : '\n' ∉ database.toList) :
    declaredModels (schemaText name database).toList =
      [Text.pascal name.toList ++ "Health".toList] := by
  -- A blank or a line feed in the model would part its line, but both part words.
  have hhealth : ("Health".toList.all fun c => !Text.isWordSeparator c) = true := by decide
  have hword : ∀ c, Text.isWordSeparator c = true →
      c ∉ Text.pascal name.toList ++ "Health".toList := by
    intro c hc hin
    rcases List.mem_append.mp hin with hin | hin
    · rw [Text.pascal_avoids _ c hin] at hc
      cases hc
    · have hother := List.all_eq_true.mp hhealth c hin
      rw [hc] at hother
      cases hother
  obtain ⟨hhead, hsource, hfields⟩ := declaredModels_fixed
  rw [toList_schemaText]
  simp only [declaredModels_append_lineFeed, declaredModels_titleLine h hname, hhead, hsource,
    hfields, declaredModels_providerLine hd, List.nil_append, List.append_nil]
  exact declaredModels_modelLine (hword ' ' (by decide)) (hword '\n' (by decide)) (by simp)

end Scaffold.Template
