import Scaffold.Proofs.Ledger.Performing
import Scaffold.Proofs.Store.Reading
import Scaffold.Template.Render

/-!
# What commands leave in files

A command that writes a file leaves just its content where the path leads (`writeFile_leads`), on
any disk. So a copy of a text holds the text with every line end as a line feed, which is the text
as it was exactly if no carriage return stood in it (`copyStatic_unifies`).
-/

namespace Scaffold

open Store
open Template (Library engine)

variable {E : Template.Engine} {site : Site} {w w' : Workshop E} {s : Store} {p q : Path}
  {path source text : String} {content other : ByteArray} {cs : List Char} {lib : Library E}

theorem return_notMem_unifyLineEnds (cs : List Char) : '\r' ∉ Text.unifyLineEnds cs := by
  fun_induction Text.unifyLineEnds cs with
  | case1 => exact List.not_mem_nil
  | case2 cs ih => simpa using ih
  | case3 cs _ ih => simpa using ih
  | case4 c cs _ hreturn ih => exact List.not_mem_cons_of_ne_of_not_mem (fun h => hreturn h.symm) ih

theorem unifyLineEnds_eq_self_iff : Text.unifyLineEnds cs = cs ↔ '\r' ∉ cs :=
  ⟨fun h => h ▸ return_notMem_unifyLineEnds cs, Text.unifyLineEnds_of_notMem⟩

theorem Store.LeadsTo.unique (h : s.LeadsTo p content) (h' : s.LeadsTo p other) :
    content = other := by
  obtain ⟨-, loc, hpl, hat⟩ := h
  obtain ⟨-, loc', hpl', hat'⟩ := h'
  cases hpl.symm.trans hpl'
  cases hat.symm.trans hat'
  rfl

theorem writeFile_leads (h : site.writeFile w path text = (.ok q, w')) :
    w'.store.LeadsTo (site.locate path) text.toUTF8 := by
  unfold Site.writeFile at h
  simp only at h
  split at h
  · cases h
  · next w₁ _ =>
    split at h
    · cases h
    · next t ht =>
      obtain ⟨bytes, hb, hleads⟩ := @writeBelow_leads w₁.store (site.locate path) text (by rw [ht])
      rw [Content.bytes?_ofString] at hb
      cases hb
      rw [ht] at hleads
      cases h
      rwa [record_store]

theorem readStatic_of_leadsTo (h : s.LeadsTo (lib.locate source) text.toUTF8) :
    lib.readStatic s source = .ok (String.ofList (Text.unifyLineEnds text.toList)) := by
  have hfile : s.isFile? (lib.locate source) = .ok true := isFile?_true_iff.mpr ⟨_, h⟩
  simp only [Library.readStatic, hfile, bind, Except.bind, if_true, h.readText_toUTF8, Except.map]

/-- **Copies have their line ends unified.** Copying a file that holds a text does what writing that
text with every line end as a line feed does. Where it goes through, the copy holds the bytes of the
file if and only if no carriage return stands in the text. -/
theorem copyStatic_unifies (h : w.store.LeadsTo (w.library.locate source) text.toUTF8) :
    let copy := String.ofList (Text.unifyLineEnds text.toList)
    site.perform w (.copyStatic source path) = site.perform w (.writeFile path copy) ∧
      ∀ a w', site.perform w (.copyStatic source path) = (.ok a, w') →
        w'.store.LeadsTo (site.locate path) copy.toUTF8 ∧
        (w'.store.LeadsTo (site.locate path) text.toUTF8 ↔ '\r' ∉ text.toList) := by
  intro copy
  have hsame : site.perform w (.copyStatic source path) =
      site.perform w (.writeFile path copy) := by
    simp only [Site.perform, readStatic_of_leadsTo h]
    rfl
  have hverbatim : copy = text ↔ '\r' ∉ text.toList := by
    rw [← String.toList_inj, String.toList_ofList, unifyLineEnds_eq_self_iff]
  refine ⟨hsame, fun a w' hok => ?_⟩
  rw [hsame] at hok
  obtain ⟨q, hq⟩ := wrote_eq_ok hok
  have hleads := writeFile_leads hq
  refine ⟨hleads, fun hbytes => ?_, fun hplain => ?_⟩
  · exact hverbatim.mp (String.toByteArray_inj.mp (hleads.unique hbytes))
  · rwa [hverbatim.mpr hplain] at hleads

/-- A root of templates with two files. -/
def staticStore : Store :=
  ((Store.empty.insert ["t"] .directory).insert ["plain.txt", "t"] (.file "é\n".toUTF8)).insert
    ["return.txt", "t"] (.file "a\r\nb\r".toUTF8)

def staticWorkshop : Workshop engine := ⟨staticStore, .new (some (Path.ofString "/t")), []⟩

def copySite : Site := ⟨Path.ofString "/srv", []⟩

theorem copyStatic_unifies_of_returns :
    staticStore.LeadsTo (staticWorkshop.library.locate "plain.txt") "é\n".toUTF8 ∧
      staticStore.LeadsTo (staticWorkshop.library.locate "return.txt") "a\r\nb\r".toUTF8 ∧
      (∃ a v, copySite.perform staticWorkshop (.copyStatic "plain.txt" "docs/a.txt") = (.ok a, v) ∧
        v.store.LeadsTo (copySite.locate "docs/a.txt") "é\n".toUTF8) ∧
      ∃ a v, copySite.perform staticWorkshop (.copyStatic "return.txt" "docs/a.txt") = (.ok a, v) ∧
        v.store.LeadsTo (copySite.locate "docs/a.txt") "a\nb\n".toUTF8 ∧
        ¬ v.store.LeadsTo (copySite.locate "docs/a.txt") "a\r\nb\r".toUTF8 := by
  have hplain : staticStore.LeadsTo (staticWorkshop.library.locate "plain.txt") "é\n".toUTF8 :=
    ⟨by decide, ["plain.txt", "t"], by decide,
      (at?_insert_of_ne (by decide)).trans (at?_insert_self (by decide))⟩
  have hreturn : staticStore.LeadsTo (staticWorkshop.library.locate "return.txt")
      "a\r\nb\r".toUTF8 :=
    ⟨by decide, ["return.txt", "t"], by decide, at?_insert_self (by decide)⟩
  have hgoes : ∀ source ∈ ["plain.txt", "return.txt"], (copySite.perform staticWorkshop
      (.copyStatic source "docs/a.txt")).1.isOk := by decide
  have hok : ∀ source ∈ ["plain.txt", "return.txt"], ∃ a v, copySite.perform staticWorkshop
      (.copyStatic source "docs/a.txt") = (.ok a, v) := by
    intro source hin
    have hsource := hgoes source hin
    cases hr : copySite.perform staticWorkshop (.copyStatic source "docs/a.txt") with
    | mk r v =>
      rw [hr] at hsource
      cases r with
      | ok a => exact ⟨a, v, rfl⟩
      | error f => cases hsource
  obtain ⟨a, u, hu⟩ := hok "plain.txt" (by simp)
  obtain ⟨b, v, hv⟩ := hok "return.txt" (by simp)
  have hcopied := (@copyStatic_unifies engine copySite _ "docs/a.txt" _ _ hplain).2 a u hu
  have hunified := (@copyStatic_unifies engine copySite _ "docs/a.txt" _ _ hreturn).2 b v hv
  refine ⟨hplain, hreturn, ⟨a, u, hu, hcopied.2.mpr (by decide)⟩, b, v, hv, hunified.1, ?_⟩
  exact fun hsame => absurd (hunified.2.mp hsame) (by decide)

end Scaffold
