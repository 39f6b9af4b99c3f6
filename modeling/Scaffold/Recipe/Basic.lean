import Scaffold.Blueprint.Derived
import Scaffold.Site

/-!
# Recipes

A recipe has a name and, for every blueprint, a script: commands on a site, each of which may depend
on what the earlier ones answered. A script ends by itself or with a fault.
-/

namespace Scaffold

inductive Script where
  | done
  | fail (f : Fault)
  | call (c : Command) (next : Except Fault Answer → Script)

namespace Script

/-- Goes on after success and passes a fault on. -/
def andThen (next : Answer → Script) : Except Fault Answer → Script
  | .ok a => next a
  | .error f => .fail f

/-- A command after which the script goes on, unless it fails. -/
def step (c : Command) (rest : Script) : Script := .call c (andThen fun _ => rest)

/-- Commands in their order, up to the first failure, and then another script. -/
def steps (cs : List Command) (rest : Script) : Script := cs.foldr step rest

def ofCommands (cs : List Command) : Script := steps cs .done

def run {E : Template.Engine} (site : Site) :
    Script → Workshop E → Except Fault Unit × Workshop E
  | done, w => (.ok (), w)
  | fail f, w => (.error f, w)
  | call c next, w =>
    let result := site.perform w c
    run site (next result.1) result.2

end Script

structure Recipe where
  name : String
  script : Blueprint → Script

def Blueprint.site (b : Blueprint) : Site :=
  ⟨Path.ofString b.target, Template.Data.ofFields b.context⟩

def Recipe.run {E : Template.Engine} (r : Recipe) (b : Blueprint) (s : Store)
    (lib : Template.Library E) : Except Fault Unit × Workshop E :=
  (r.script b).run b.site ⟨s, lib, []⟩

end Scaffold
