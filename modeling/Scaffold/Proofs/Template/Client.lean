import Scaffold.Proofs.Template.Likeness

/-!
# Clients of databases

The texts that the templates of two database clients give: that for Mongoose, and that for Drizzle
where the database is SQLite (`meaning_mongooseTree`, `meaning_drizzleTree`). Both take the address
of the database from the environment and have one of their own in case there is none. From the text
it can be told which (`fallsBackTo_iff`).
-/

namespace Scaffold.Template

/-- What stands before the address that is taken if the environment has none. -/
def fallbackMark : String := "process.env.DATABASE_URL || \""

/-- A text that falls back to this address. -/
def fallingBack (head url tail : String) : String :=
  head ++ (fallbackMark ++ (url ++ ("\"" ++ tail)))

/-- Somewhere in the text this address is taken if the environment has none. -/
def FallsBackTo (text url : String) : Prop :=
  ∃ head tail, text = fallingBack head url tail ∧ '"' ∉ url.toList

variable {head url tail other name : String} {esm ts : Bool} {fr : Frame} {data : Data}

/-- Behind what ends before a character the rest can be told. -/
theorem eq_of_append_cons {α : Type} {c : α} {xs ys xs' ys' : List α} (hxs : c ∉ xs)
    (hxs' : c ∉ xs') (h : xs ++ c :: ys = xs' ++ c :: ys') : xs = xs' ∧ ys = ys' := by
  induction xs generalizing xs' with
  | nil =>
    cases xs' with
    | nil => exact ⟨rfl, (List.cons.inj h).2⟩
    | cons d xs' => exact absurd ((List.cons.inj h).1 ▸ List.mem_cons_self) hxs'
  | cons d xs ih =>
    cases xs' with
    | nil => exact absurd ((List.cons.inj h).1 ▸ List.mem_cons_self) hxs
    | cons d' xs' =>
      obtain ⟨rfl, hrest⟩ := List.cons.inj h
      obtain ⟨rfl, hys⟩ := ih (fun hc => hxs (List.mem_cons_of_mem _ hc))
        (fun hc => hxs' (List.mem_cons_of_mem _ hc)) hrest
      exact ⟨rfl, hys⟩

theorem toList_fallingBack : (fallingBack head url tail).toList =
    (head.toList ++ "process.env.DATABASE_URL ".toList) ++ '|' :: '|' :: ' ' :: '"' ::
      (url.toList ++ '"' :: tail.toList) := by
  simp [fallingBack, fallbackMark]

/-- A text with just the bars of one fallback falls back to nothing else. -/
theorem fallsBackTo_iff (hhead : '|' ∉ head.toList) (htail : '|' ∉ tail.toList)
    (hurl : '|' ∉ url.toList) (hquote : '"' ∉ url.toList) :
    FallsBackTo (fallingBack head url tail) other ↔ other = url := by
  constructor
  · rintro ⟨head', tail', htext, hother⟩
    have hlist := congrArg String.toList htext
    rw [toList_fallingBack, toList_fallingBack] at hlist
    have hmark : '|' ∉ "process.env.DATABASE_URL ".toList := by decide
    have hbefore : '|' ∉ head.toList ++ "process.env.DATABASE_URL ".toList := by
      simp only [List.mem_append, not_or]
      exact ⟨hhead, hmark⟩
    -- Two bars in all, so there is none before those of the other fallback.
    have hcount := congrArg (List.count '|') hlist
    simp only [List.count_append, List.count_cons, List.count_eq_zero_of_not_mem hhead,
      List.count_eq_zero_of_not_mem htail, List.count_eq_zero_of_not_mem hurl,
      List.count_eq_zero_of_not_mem hmark] at hcount
    have hbars : 2 = List.count '|' head'.toList +
        (List.count '|' other.toList + List.count '|' tail'.toList + 1 + 1) := by
      simpa using hcount
    have hnone : '|' ∉ head'.toList := List.count_eq_zero.mp (by omega)
    have hbefore' : '|' ∉ head'.toList ++ "process.env.DATABASE_URL ".toList := by
      simp only [List.mem_append, not_or]
      exact ⟨hnone, hmark⟩
    have hrest := (eq_of_append_cons hbefore hbefore' hlist).2
    simp only [List.cons.injEq, true_and] at hrest
    exact String.toList_inj.mp (eq_of_append_cons hquote hother hrest).1.symm
  · rintro rfl
    exact ⟨head, tail, rfl, hquote⟩

/-- A condition shows one of two texts, whatever its parts are made of. -/
theorem meaning_branch {test : Expr} {yes no : List Node} {b : Bool} {text rest : String}
    (htest : (test.meaning fr).truthy = b) (hyes : nodesMeaning fr yes = (text, fr))
    (hno : nodesMeaning fr no = (rest, fr)) :
    (Node.branch [(test, yes)] no).meaning fr = (if b then text else rest, fr) := by
  rw [Node.meaning, armsMeaning, armsMeaning, htest, hyes, hno]
  cases b <;> rfl

/-- A line that is there in one of two forms. -/
def Node.either (test : Expr) (yes no : String) : Node := .branch [(test, [.text yes])] [.text no]

/-- A line that is not always there. -/
def Node.only (test : Expr) (yes : String) : Node := .branch [(test, [.text yes])] []

theorem meaning_either {test : Expr} {yes no : String} {b : Bool}
    (h : (test.meaning fr).truthy = b) :
    (Node.either test yes no).meaning fr = (if b then yes else no, fr) :=
  meaning_branch h (nodesMeaning_singleton rfl) (nodesMeaning_singleton rfl)

theorem meaning_only {test : Expr} {yes : String} {b : Bool} (h : (test.meaning fr).truthy = b) :
    (Node.only test yes).meaning fr = (if b then yes else "", fr) :=
  meaning_branch h (nodesMeaning_singleton rfl) rfl

def moduleTest : Expr := .or (.name "is_esm") (.name "is_typescript")

def scriptTest : Expr := .and (.not (.name "is_esm")) (.not (.name "is_typescript"))

def promiseExpr (line : Nat) : Expr :=
  .ifElse line (.name "is_typescript") (.constant (.str ": Promise<void>"))
    (some (.constant (.str "")))

def exporting (esm ts : Bool) : String := if esm || ts then "export " else ""

/-- The type of what the function gives. -/
def promise (ts : Bool) : String := if ts then ": Promise<void>" else ""

/-- The language and the kind of modules can be read in a scope. -/
structure Frame.HasStyle (fr : Frame) (esm ts : Bool) : Prop where
  esm : fr.read "is_esm" = .bool esm
  typed : fr.read "is_typescript" = .bool ts

section

variable (h : fr.HasStyle esm ts)

include h

theorem truthy_moduleTest : (moduleTest.meaning fr).truthy = (esm || ts) := by
  simp only [moduleTest, Expr.meaning, h.esm, h.typed]
  cases esm <;> rfl

theorem truthy_scriptTest : (scriptTest.meaning fr).truthy = !(esm || ts) := by
  simp only [scriptTest, Expr.meaning, h.esm, h.typed]
  cases esm <;> rfl

theorem meaning_exporting :
    (Node.only moduleTest "export ").meaning fr = (exporting esm ts, fr) :=
  meaning_only (truthy_moduleTest h)

theorem meaning_promise (line : Nat) :
    (Node.output (promiseExpr line)).meaning fr = (promise ts, fr) := by
  simp only [Node.meaning, promiseExpr, Expr.meaning, elseMeaning, h.typed]
  cases ts <;> rfl

end

/-! ## Mongoose -/

def mongoAddress : String := "mongodb://localhost:27017/"

def databaseExpr : Expr :=
  .filter (.name "project_name") "replace"
    [(none, .constant (.str "-")), (none, .constant (.str "_"))]

def mongooseTree : Tree where
  name := "db/mongoose-client.j2"
  slots := [⟨"is_esm", .data⟩, ⟨"is_typescript", .data⟩, ⟨"project_name", .data⟩]
  nodes := [
    .either moduleTest "import mongoose from \"mongoose\";\n"
      "const mongoose = require(\"mongoose\");\n",
    .text "\n",
    .only moduleTest "export ",
    .text "async function connectDatabase()",
    .output (promiseExpr 7),
    .text (" \x7b\n  const url = " ++ (fallbackMark ++ mongoAddress)),
    .output databaseExpr,
    .text ("\"" ++ ";\n  await mongoose.connect(url);\n\x7d\n"),
    .only scriptTest "\nmodule.exports = \x7b connectDatabase \x7d;\n"]

theorem compile_mongooseClient :
    Tree.ofSource "db/mongoose-client.j2" (sourceOf Bundled.mongooseClient) = .ok mongooseTree := by
  apply compile_of_spells
  · simp only [Bundled.mongooseClient]
    repeat' first | exact .nil | apply Spells.cons rfl
  · decide +kernel

def mongooseHead (esm ts : Bool) : String :=
  (if esm || ts then "import mongoose from \"mongoose\";\n"
    else "const mongoose = require(\"mongoose\");\n") ++
  ("\n" ++ (exporting esm ts ++ ("async function connectDatabase()" ++ (promise ts ++
    " \x7b\n  const url = "))))

def mongooseTail (esm ts : Bool) : String :=
  ";\n  await mongoose.connect(url);\n\x7d\n" ++
    if !(esm || ts) then "\nmodule.exports = \x7b connectDatabase \x7d;\n" else ""

def databaseNamed (name : String) : String :=
  String.ofList (Text.replace ['-'] ['_'] none name.toList)

theorem meaning_databaseExpr (h : fr.read "project_name" = .str name) :
    (Node.output databaseExpr).meaning fr = (databaseNamed name, fr) := by
  simp only [Node.meaning, databaseExpr, Expr.meaning, filterMeaning, h, Value.text_str]
  rfl

theorem meaning_mongooseTree (hesm : data.lookup "is_esm" = some (.bool esm))
    (hts : data.lookup "is_typescript" = some (.bool ts))
    (hname : data.lookup "project_name" = some (.str name)) :
    mongooseTree.meaning data = fallingBack (mongooseHead esm ts)
      (mongoAddress ++ databaseNamed name) (mongooseTail esm ts) := by
  have hslots : (mongooseTree.slots.map fun slot => Text.compose slot.name).Nodup := by
    decide
  have hstyle : (Frame.start mongooseTree.name mongooseTree.slots data).HasStyle esm ts :=
    ⟨read_start (by decide) hslots hesm, read_start (by decide) hslots hts⟩
  have hn : (Frame.start mongooseTree.name mongooseTree.slots data).read "project_name" =
      .str name := read_start (by decide) hslots hname
  rw [Tree.meaning]
  generalize Frame.start mongooseTree.name mongooseTree.slots data = fr at hstyle hn
  have hnodes : nodesMeaning fr mongooseTree.nodes = (_, fr) :=
    nodesMeaning_cons (meaning_either (truthy_moduleTest hstyle)) (nodesMeaning_cons rfl
      (nodesMeaning_cons (meaning_exporting hstyle) (nodesMeaning_cons rfl
      (nodesMeaning_cons (meaning_promise hstyle 7) (nodesMeaning_cons rfl
      (nodesMeaning_cons (meaning_databaseExpr hn) (nodesMeaning_cons rfl
      (nodesMeaning_singleton (meaning_only (truthy_scriptTest hstyle))))))))))
  rw [hnodes]
  unfold fallingBack mongooseHead mongooseTail
  simp only [String.append_assoc]

/-! ## Drizzle -/

def databaseTest (word : String) : Expr :=
  .compare (.name "database") [(.same, .constant (.str word))]

/-- What depends on the database: there are two servers, and otherwise it is SQLite. -/
def Node.byDatabase (postgres mysql sqlite : List Node) : Node :=
  .branch [(databaseTest "postgres", postgres), (databaseTest "mysql", mysql)] sqlite

def driverNode (driver : String) : Node := .assign "driver_import" (.constant (.str driver))

/-- The template once the driver is settled. -/
def drizzleBody : List Node := [
  .branch [(moduleTest, [
      .text "import \x7b drizzle \x7d from \"",
      .output (.name "driver_import"),
      .text "\";\n",
      .byDatabase [.text "import pg from \"pg\";\n"]
        [.text "import mysql from \"mysql2/promise\";\n"]
        [.text "import Database from \"better-sqlite3\";\n"]])]
    [ .text "const \x7b drizzle \x7d = require(\"",
      .output (.name "driver_import"),
      .text "\");\n",
      .byDatabase [.text "const pg = require(\"pg\");\n"]
        [.text "const mysql = require(\"mysql2/promise\");\n"]
        [.text "const Database = require(\"better-sqlite3\");\n"]],
  .text "\n",
  .byDatabase
    [.text "const client = new pg.Pool(\x7b connectionString: process.env.DATABASE_URL \x7d);\n"]
    [ .text "const client = mysql.createPool(process.env.DATABASE_URL",
      .output (.ifElse 31 (.name "is_typescript") (.constant (.str " as string"))
        (some (.constant (.str "")))),
      .text ");\n"]
    [.text ("const client = new Database((" ++
      (fallbackMark ++ ("file:./dev.db" ++ ("\"" ++ ").replace(/^file:/, \"\"));\n"))))],
  .text "\n",
  .only moduleTest "export ",
  .text "const db = drizzle(client);\n\n",
  .only moduleTest "export ",
  .text "async function connectDatabase()",
  .output (promiseExpr 38),
  .text " \x7b\n",
  .byDatabase [.text "  await client.query(\"SELECT 1\");\n"]
    [.text "  await client.query(\"SELECT 1\");\n"]
    [.text "  client.prepare(\"SELECT 1\").get();\n"],
  .text "\x7d\n",
  .only scriptTest "\nmodule.exports = \x7b db, connectDatabase \x7d;\n"]

def drizzleTree : Tree where
  name := "db/drizzle-client.j2"
  slots := [⟨"database", .data⟩, ⟨"driver_import", .data⟩, ⟨"is_esm", .data⟩,
    ⟨"is_typescript", .data⟩]
  nodes := .byDatabase [driverNode "drizzle-orm/node-postgres"] [driverNode "drizzle-orm/mysql2"]
    [driverNode "drizzle-orm/better-sqlite3"] :: drizzleBody

theorem compile_drizzleClient :
    Tree.ofSource "db/drizzle-client.j2" (sourceOf Bundled.drizzleClient) = .ok drizzleTree := by
  apply compile_of_spells
  · simp only [Bundled.drizzleClient]
    repeat' first | exact .nil | apply Spells.cons rfl
  · decide +kernel

def drizzleHead (esm ts : Bool) : String :=
  (if esm || ts then
    "import \x7b drizzle \x7d from \"" ++ ("drizzle-orm/better-sqlite3" ++
      ("\";\n" ++ "import Database from \"better-sqlite3\";\n"))
  else
    "const \x7b drizzle \x7d = require(\"" ++ ("drizzle-orm/better-sqlite3" ++
      ("\");\n" ++ "const Database = require(\"better-sqlite3\");\n"))) ++
  ("\n" ++ "const client = new Database((")

def drizzleTail (esm ts : Bool) : String :=
  ").replace(/^file:/, \"\"));\n" ++ ("\n" ++ (exporting esm ts ++
    ("const db = drizzle(client);\n\n" ++ (exporting esm ts ++
    ("async function connectDatabase()" ++ (promise ts ++ (" \x7b\n" ++
    ("  client.prepare(\"SELECT 1\").get();\n" ++ ("\x7d\n" ++
      if !(esm || ts) then "\nmodule.exports = \x7b db, connectDatabase \x7d;\n" else "")))))))))

section

variable (hsqlite : fr.read "database" = .str "sqlite")

include hsqlite

theorem truthy_databaseTest {word : String} (hne : "sqlite" ≠ word) :
    ((databaseTest word).meaning fr).truthy = false := by
  have hsame : compareMeaning .same (.str "sqlite") (.str word) = decide ("sqlite" = word) := by
    rw [compareMeaning, if_pos rfl, Value.same]
  simp only [databaseTest, Expr.meaning, chainMeaning, hsqlite, hsame, decide_eq_false hne]
  rfl

/-- Where the database is SQLite, only the last part counts. -/
theorem meaning_byDatabase (postgres mysql sqlite : List Node) :
    (Node.byDatabase postgres mysql sqlite).meaning fr = nodesMeaning fr sqlite := by
  rw [Node.byDatabase, Node.meaning, armsMeaning, armsMeaning, armsMeaning,
    truthy_databaseTest hsqlite (by decide), truthy_databaseTest hsqlite (by decide)]
  rfl

theorem meaning_byDatabase_text (postgres mysql : List Node) (text : String) :
    (Node.byDatabase postgres mysql [.text text]).meaning fr = (text, fr) :=
  (meaning_byDatabase hsqlite _ _ _).trans (nodesMeaning_singleton rfl)

end

theorem nodesMeaning_drizzleBody (hstyle : fr.HasStyle esm ts)
    (hsqlite : fr.read "database" = .str "sqlite")
    (hdriver : fr.read "driver_import" = .str "drizzle-orm/better-sqlite3") :
    nodesMeaning fr drizzleBody =
      (fallingBack (drizzleHead esm ts) "file:./dev.db" (drizzleTail esm ts), fr) := by
  have hshown : (Node.output (.name "driver_import")).meaning fr =
      ("drizzle-orm/better-sqlite3", fr) := by
    rw [Node.meaning, Expr.meaning, hdriver, Value.text_str]
  have hnodes : nodesMeaning fr drizzleBody = (_, fr) :=
    nodesMeaning_cons (meaning_branch (truthy_moduleTest hstyle)
        (nodesMeaning_cons rfl (nodesMeaning_cons hshown (nodesMeaning_cons rfl
          (nodesMeaning_singleton (meaning_byDatabase_text hsqlite _ _ _)))))
        (nodesMeaning_cons rfl (nodesMeaning_cons hshown (nodesMeaning_cons rfl
          (nodesMeaning_singleton (meaning_byDatabase_text hsqlite _ _ _))))))
      (nodesMeaning_cons rfl
      (nodesMeaning_cons (meaning_byDatabase_text hsqlite _ _ _) (nodesMeaning_cons rfl
      (nodesMeaning_cons (meaning_exporting hstyle) (nodesMeaning_cons rfl
      (nodesMeaning_cons (meaning_exporting hstyle) (nodesMeaning_cons rfl
      (nodesMeaning_cons (meaning_promise hstyle 38) (nodesMeaning_cons rfl
      (nodesMeaning_cons (meaning_byDatabase_text hsqlite _ _ _) (nodesMeaning_cons rfl
      (nodesMeaning_singleton (meaning_only (truthy_scriptTest hstyle))))))))))))))
  rw [hnodes]
  unfold fallingBack drizzleHead drizzleTail
  simp only [String.append_assoc]

theorem read_put_of_ne {other : String} {h? : Option Handle}
    (h : Text.compose other ≠ Text.compose name) :
    (fr.put name h?).read other = fr.read other := by
  rw [Frame.read, Frame.read, Frame.slot?_put_of_ne fr name other h? h]

theorem read_put_self {x : Value} : (fr.put name (some (.plain x))).read name = x := by
  rw [Frame.read, Frame.slot?_put_self]

theorem meaning_drizzleTree (hesm : data.lookup "is_esm" = some (.bool esm))
    (hts : data.lookup "is_typescript" = some (.bool ts))
    (hdatabase : data.lookup "database" = some (.str "sqlite")) :
    drizzleTree.meaning data =
      fallingBack (drizzleHead esm ts) "file:./dev.db" (drizzleTail esm ts) := by
  have hslots : (drizzleTree.slots.map fun slot => Text.compose slot.name).Nodup := by
    decide
  have hstyle : (Frame.start drizzleTree.name drizzleTree.slots data).HasStyle esm ts :=
    ⟨read_start (by decide) hslots hesm, read_start (by decide) hslots hts⟩
  have hsqlite : (Frame.start drizzleTree.name drizzleTree.slots data).read "database" =
      .str "sqlite" := read_start (by decide) hslots hdatabase
  rw [Tree.meaning]
  generalize Frame.start drizzleTree.name drizzleTree.slots data = fr at hstyle hsqlite
  -- The first condition only settles the driver, which changes nothing else that is read.
  have hother : ∀ other ∈ ["is_esm", "is_typescript", "database"],
      Text.compose other ≠ Text.compose "driver_import" := by decide
  have hput : ∀ other ∈ ["is_esm", "is_typescript", "database"], ∀ h?,
      (fr.put "driver_import" h?).read other = fr.read other := fun other ho h? =>
    read_put_of_ne (hother other ho)
  have hbody := nodesMeaning_drizzleBody
    ⟨(hput _ (by simp) _).trans hstyle.esm, (hput _ (by simp) _).trans hstyle.typed⟩
    ((hput _ (by simp) _).trans hsqlite) (read_put_self (x := .str "drizzle-orm/better-sqlite3"))
  rw [drizzleTree, nodesMeaning, meaning_byDatabase hsqlite]
  exact (congrArg ("" ++ ·) (congrArg Prod.fst hbody)).trans String.empty_append

/-! ## What the texts fall back to -/

section

variable {c : Char} {s t : String} {cs : List Char}

theorem notMem_of_spelled (h : s = String.ofList cs) (hc : c ∉ cs) : c ∉ s.toList := by
  rwa [h, String.toList_ofList]

theorem notMem_append (hs : c ∉ s.toList) (ht : c ∉ t.toList) : c ∉ (s ++ t).toList := by
  rw [String.toList_append, List.mem_append]
  exact not_or.mpr ⟨hs, ht⟩

theorem notMem_ite {p : Prop} [Decidable p] (hs : c ∉ s.toList) (ht : c ∉ t.toList) :
    c ∉ (if p then s else t).toList := by
  split
  · exact hs
  · exact ht

end

theorem bar_notMem_parts (esm ts : Bool) :
    '|' ∉ (mongooseHead esm ts).toList ∧ '|' ∉ (mongooseTail esm ts).toList ∧
      '|' ∉ (drizzleHead esm ts).toList ∧ '|' ∉ (drizzleTail esm ts).toList := by
  unfold mongooseHead mongooseTail drizzleHead drizzleTail exporting promise
  refine ⟨?_, ?_, ?_, ?_⟩ <;>
    repeat' first
      | with_reducible apply notMem_append
      | with_reducible apply notMem_ite
      | exact notMem_of_spelled rfl (by decide)

theorem fallsBackTo_mongoose (hbar : '|' ∉ name.toList) (hquote : '"' ∉ name.toList) :
    FallsBackTo (fallingBack (mongooseHead esm ts) (mongoAddress ++ name) (mongooseTail esm ts))
      other ↔ other = mongoAddress ++ name := by
  have haddress : '|' ∉ mongoAddress.toList ∧ '"' ∉ mongoAddress.toList := by decide
  have hparts := bar_notMem_parts esm ts
  exact fallsBackTo_iff hparts.1 hparts.2.1 (notMem_append haddress.1 hbar)
    (notMem_append haddress.2 hquote)

theorem fallsBackTo_drizzle :
    FallsBackTo (fallingBack (drizzleHead esm ts) "file:./dev.db" (drizzleTail esm ts)) other ↔
      other = "file:./dev.db" := by
  have hparts := bar_notMem_parts esm ts
  exact fallsBackTo_iff hparts.2.2.1 hparts.2.2.2 (by decide) (by decide)

end Scaffold.Template
