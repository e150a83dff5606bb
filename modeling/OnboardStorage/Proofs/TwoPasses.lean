import Mathlib
import OnboardStorage.CommandLine.Tool
import OnboardStorage.Proofs.FileTree
import OnboardStorage.Proofs.Loading
import OnboardStorage.Proofs.Replay

/-!
# Two passes of the tool equal one

A script may be cut in two.  The first part is replayed with its stores saved
to a file, and the second part later, by a fresh process that restores them.
Together the two passes print what one pass over the whole script prints, and
the second one saves what that pass would save.

Three things have to fit for this.  What is saved is read back as it was; the
stores that a replay leads to are accepted when they are restored; and a replay
depends on nothing that is lost between the passes.
-/

namespace OnboardStorage.CommandLine

variable {σ : Type}

/-- Whether a run of the tool has something to start from: no snapshot is asked
for, or one is loaded and accepted. -/
def CanStart (host : Host (StateM σ)) (config : Config) (disk : σ) :
    Option String → Prop
  | none => True
  | some path =>
      ∃ snapshot registry, Snapshot.load (host.contentAt disk path) = .ok snapshot ∧
        snapshot.toRegistry config = .ok registry

/-- A run that went well and printed the given lines. -/
def Outcome.Prints (outcome : Outcome) (lines : List Line) : Prop :=
  outcome.exitCode = 0 ∧ outcome.errors = [] ∧ outcome.output = lines.map Line.toText

variable {host : Host (StateM σ)} {config : Config} {disk : σ}

/-! ## One pass -/

theorem run_bind {α β : Type} {first : StateM σ α} {disk after : σ} {answer : α}
    (ran : first.run disk = (answer, after)) (next : α → StateM σ β) :
    (first >>= next).run disk = (next answer).run after := by
  rw [StateT.run_bind, ran]
  rfl

theorem restoreFrom_none (host : Host (StateM σ)) (fresh : Service) (disk : σ) :
    (restoreFrom host fresh none).run disk = (.ok (fresh, []), disk) :=
  rfl

theorem restoreFrom_some (readsOnly : host.ReadsOnly) {fresh restored : Service}
    {notices : List Notice} {path : String} {snapshot : Snapshot}
    (loaded : Snapshot.load (host.contentAt disk path) = .ok snapshot)
    (accepted : fresh.restore snapshot = .ok (restored, notices)) :
    (restoreFrom host fresh (some path)).run disk = (.ok (restored, notices), disk) := by
  rw [restoreFrom, run_bind (readsOnly disk path)]
  simp only [loaded, accepted]
  rfl

/-- Where a run can start, it starts with a sound service that has the routes
of a fresh one. -/
theorem exists_restoreFrom (readsOnly : host.ReadsOnly) {fresh : Service}
    (sound : fresh.Sound) {restore : Option String}
    (canStart : CanStart host fresh.config disk restore) :
    ∃ service notices,
      (restoreFrom host fresh restore).run disk = (.ok (service, notices), disk) ∧
      service.Sound ∧ service.config = fresh.config ∧ service.router = fresh.router := by
  cases restore with
  | none => exact ⟨fresh, [], restoreFrom_none host fresh disk, sound, rfl, rfl⟩
  | some path =>
      obtain ⟨snapshot, registry, loaded, accepted⟩ := canStart
      have restored : fresh.restore snapshot =
          .ok ({ fresh with registry := registry }, [.restored registry.size]) := by
        rw [Service.restore, accepted]
      exact ⟨_, _, restoreFrom_some readsOnly loaded restored,
        Service.sound_of_toRegistry_eq_ok accepted, rfl, rfl⟩

theorem saveSnapshot_some {service : Service} {path : String} {after : σ}
    (written : (host.write path service.snapshot.toText).run disk = (.ok (), after))
    (output : List String) :
    (saveSnapshot host service output (some path)).run disk =
      ((Outcome.success output).after [.saved service.registry.size path], after) := by
  rw [saveSnapshot, run_bind written]
  rfl

/-- A pass that can read, start and write prints the lines of its replay and
leaves the stores that the replay leads to in a file. -/
theorem replay_run (readsOnly : host.ReadsOnly) {script path : String} {steps : List Step}
    (loaded : Step.loadList (host.contentAt disk script) = .ok steps)
    {fresh : Service} {routing : List Notice}
    (started : Service.start config ⟨0⟩ = .ok (fresh, routing))
    {restore : Option String} {service : Service} {restoring : List Notice}
    (restored : (restoreFrom host fresh restore).run disk =
      (.ok (service, restoring), disk))
    (keeps : host.Keeps disk path) :
    ((replay host config script restore (some path)).run disk).1.Prints
        (service.replay 0 steps).2.1 ∧
      host.contentAt ((replay host config script restore (some path)).run disk).2 path =
        .ok (service.replay 0 steps).1.snapshot.toText.toUTF8 := by
  obtain ⟨after, written, kept⟩ := keeps (service.replay 0 steps).1.snapshot.toText
  have saved := saveSnapshot_some written ((service.replay 0 steps).2.1.map Line.toText)
  rw [replay, run_bind (readsOnly disk script)]
  simp only [loaded, started]
  rw [run_bind restored]
  simp only
  rw [run_bind saved]
  exact ⟨⟨rfl, rfl, rfl⟩, kept⟩

/-! ## Two passes -/

/-- A fresh service that takes over the stores a replay led to differs from the
service replayed in its clock only. -/
theorem resumed_eq {fresh service : Service} {steps : List Step}
    (config_eq : service.config = fresh.config)
    (router_eq : service.router = fresh.router) :
    { fresh with registry := (service.replay 0 steps).1.registry } =
      (service.replay 0 steps).1.withClock fresh.clock := by
  obtain ⟨sameConfig, sameRouter⟩ := service.replay_frame 0 steps
  rw [Service.withClock, sameConfig, sameRouter, config_eq, router_eq]

/-- Under every configuration that passes its check, a script may be replayed
in two passes.  Both passes and the single one succeed, the lines of the second
pass are those that the single pass prints for the same steps, counted from its
own beginning, and the same snapshot is saved in the end.

The disk of the second pass may be any on which the saved file is still the one
that the first pass wrote. -/
theorem two_passes_equal_one (host : Host (StateM σ)) (readsOnly : host.ReadsOnly)
    (config : Config) (valid : config.check = .ok ()) (disk later : σ)
    (restore : Option String) (canStart : CanStart host config disk restore)
    (firstScript secondScript wholeScript : String) (first second : List Step)
    (firstLoaded : Step.loadList (host.contentAt disk firstScript) = .ok first)
    (secondLoaded : Step.loadList (host.contentAt later secondScript) = .ok second)
    (wholeLoaded : Step.loadList (host.contentAt disk wholeScript) = .ok (first ++ second))
    (saved secondTarget wholeTarget : String) (keepsSaved : host.Keeps disk saved)
    (keepsSecond : host.Keeps later secondTarget)
    (keepsWhole : host.Keeps disk wholeTarget)
    (passedOn : host.contentAt later saved =
      host.contentAt
        ((replay host config firstScript restore (some saved)).run disk).2 saved) :
    ∃ (lines others : List Line) (snapshot : Snapshot),
      (∀ line ∈ lines, line.position < first.length) ∧
      ((replay host config firstScript restore (some saved)).run disk).1.Prints lines ∧
      ((replay host config secondScript (some saved) (some secondTarget)).run
        later).1.Prints others ∧
      ((replay host config wholeScript restore (some wholeTarget)).run disk).1.Prints
        (lines ++ others.map (Line.shift first.length)) ∧
      host.contentAt
        ((replay host config secondScript (some saved) (some secondTarget)).run later).2
          secondTarget = .ok snapshot.toText.toUTF8 ∧
      host.contentAt
        ((replay host config wholeScript restore (some wholeTarget)).run disk).2
          wholeTarget = .ok snapshot.toText.toUTF8 := by
  obtain ⟨router, started⟩ := Service.exists_start_eq_ok valid ⟨0⟩
  have freshSound := Service.sound_of_start_eq_ok started
  generalize Service.mk config (Registry.empty config.maxStores.toNat) router ⟨0⟩ = fresh
    at started freshSound
  have freshConfig : fresh.config = config := (Service.eq_of_start_eq_ok started).2.1
  obtain ⟨service, restoring, restored, sound, config_eq, router_eq⟩ :=
    exists_restoreFrom readsOnly freshSound (freshConfig.symm ▸ canStart)
  -- The first pass, and the service that the second one starts with.
  obtain ⟨firstPrints, firstKept⟩ :=
    replay_run readsOnly firstLoaded started restored keepsSaved
  have middleSound := sound.replay 0 first
  have middleConfig : fresh.config = (service.replay 0 first).1.config :=
    config_eq.symm.trans (service.replay_frame 0 first).1.symm
  have reloaded : Snapshot.load (host.contentAt later saved) =
      .ok (service.replay 0 first).1.snapshot := by
    rw [passedOn, firstKept, Snapshot.load_toText]
  have resumed := restoreFrom_some readsOnly reloaded
    (middleSound.restore_snapshot middleConfig)
  rw [resumed_eq config_eq router_eq] at resumed
  -- The second pass.
  obtain ⟨shown, sameReplay⟩ :=
    (service.replay 0 first).1.replay_withClock fresh.clock 0 second
  obtain ⟨secondPrints, secondKept⟩ :=
    replay_run readsOnly secondLoaded started resumed keepsSecond
  rw [sameReplay] at secondPrints secondKept
  -- The single pass.
  have whole_eq := service.replay_append 0 first second
  rw [Nat.zero_add, ← Nat.add_zero first.length, Service.replay_shift] at whole_eq
  obtain ⟨wholePrints, wholeKept⟩ :=
    replay_run readsOnly wholeLoaded started restored keepsWhole
  rw [whole_eq] at wholePrints wholeKept
  refine ⟨(service.replay 0 first).2.1,
    ((service.replay 0 first).1.replay 0 second).2.1,
    ((service.replay 0 first).1.replay 0 second).1.snapshot,
    ?_, firstPrints, secondPrints, wholePrints, secondKept, wholeKept⟩
  intro line member
  have bounded := service.position_lt_of_mem_replay member
  rw [Nat.zero_add] at bounded
  exact bounded

/-! ### Two passes over a small script -/

/-- The script that carries out telecommands. -/
def scriptDatum (requests : List Request) : Datum :=
  .list (requests.map fun request =>
    .record [("step", .text "execute"), ("request", request.toDatum)])

/-- A request that creates a store. -/
def creation : Request :=
  .createStores [⟨exampleStore "log", 5, .circular, 1⟩]

/-- A working directory that holds two files. -/
def pairTree (firstName secondName : String) (first second : String) : FileTree where
  start := ["work"]
  files := [(["work", firstName], first.toUTF8), (["work", secondName], second.toUTF8)]

theorem loadList_write {datum : Datum} {steps : List Step}
    (legible : datum.Legible Text.Json.maxDepth)
    (readable : datum.listOf? Step.ofDatum? = some steps) :
    Step.loadList (.ok (Text.Json.write datum).toUTF8) = .ok steps := by
  apply load_toUTF8
  rw [Step.listOfText?, Text.Json.parse_write legible]
  exact readable

theorem loadList_scripts :
    Step.loadList (.ok (Text.Json.write (scriptDatum [creation])).toUTF8) =
      .ok [.execute creation] ∧
    Step.loadList (.ok (Text.Json.write (scriptDatum [.reportStatus])).toUTF8) =
      .ok [.execute .reportStatus] ∧
    Step.loadList (.ok (Text.Json.write (scriptDatum [creation, .reportStatus])).toUTF8) =
      .ok ([.execute creation] ++ [.execute .reportStatus]) := by
  have created : ∀ depth, creation.toDatum.Legible (depth + 4) := by
    simp [creation, Request.toDatum, Request.toFields, StoreDefinition.toDatum,
      StoreId.toDatum, StoreKind.toDatum]
  have asked : ∀ depth, Request.reportStatus.toDatum.Legible (depth + 4) := by
    simp [Request.toDatum, Request.toFields]
  have legible : ∀ requests : List Request,
      (∀ request ∈ requests, ∀ depth, request.toDatum.Legible (depth + 4)) →
      (scriptDatum requests).Legible (121 + 6) := by
    intro requests each
    simpa [scriptDatum] using fun request member => each request member 121
  refine ⟨loadList_write (legible _ ?_) ?_, loadList_write (legible _ ?_) ?_,
    loadList_write (legible _ ?_) ?_⟩
  · simpa using created
  · decide +kernel
  · simpa using asked
  · decide +kernel
  · simpa using ⟨created, asked⟩
  · decide +kernel

theorem pairTree_ac (first second : String) :
    (pairTree "a" "c" first second).read "a" = .ok first.toUTF8 ∧
    (pairTree "a" "c" first second).read "c" = .ok second.toUTF8 ∧
    (pairTree "a" "c" first second).target "s" = .ok ["work", "s"] ∧
    (pairTree "a" "c" first second).target "t" = .ok ["work", "t"] := by
  refine ⟨?_, ?_, ?_, ?_⟩ <;> cbv

theorem pairTree_sb (first second : String) :
    (pairTree "s" "b" first second).read "s" = .ok first.toUTF8 ∧
    (pairTree "s" "b" first second).read "b" = .ok second.toUTF8 ∧
    (pairTree "s" "b" first second).target "t" = .ok ["work", "t"] := by
  refine ⟨?_, ?_, ?_⟩ <;> cbv

/-- A script that creates a store and then reports on it may be cut between the
two. -/
theorem small_script_runs_in_two_passes :
    ∃ (later : FileTree) (lines others : List Line),
      ((replay FileTree.host Config.standard "b" (some "s") (some "t")).run later).1.Prints
        others ∧
      ((replay FileTree.host Config.standard "c" none (some "t")).run
          (pairTree "a" "c" (Text.Json.write (scriptDatum [creation]))
            (Text.Json.write (scriptDatum [creation, .reportStatus])))).1.Prints
        (lines ++ others.map (Line.shift 1)) := by
  obtain ⟨firstLoaded, secondLoaded, wholeLoaded⟩ := loadList_scripts
  generalize Text.Json.write (scriptDatum [creation]) = first at firstLoaded ⊢
  generalize Text.Json.write (scriptDatum [creation, .reportStatus]) = whole
    at wholeLoaded ⊢
  generalize Text.Json.write (scriptDatum [.reportStatus]) = second at secondLoaded
  obtain ⟨firstRead, wholeRead, savedFree, wholeFree⟩ := pairTree_ac first whole
  rw [← firstRead, ← FileTree.contentAt_host] at firstLoaded
  rw [← wholeRead, ← FileTree.contentAt_host] at wholeLoaded
  have started : Service.start Config.standard ⟨0⟩ =
      .ok (⟨Config.standard, Registry.empty 4, Router.empty, ⟨0⟩⟩, []) := rfl
  obtain ⟨-, kept⟩ := replay_run FileTree.readsOnly_host firstLoaded started
    (restoreFrom_none _ _ _) (FileTree.keeps_of_target_eq_ok savedFree)
  generalize Snapshot.toText _ = saved at kept
  -- The disk of the second pass holds the saved file and the second script.
  obtain ⟨savedRead, secondRead, laterFree⟩ := pairTree_sb saved second
  rw [← secondRead, ← FileTree.contentAt_host] at secondLoaded
  rw [← savedRead] at kept
  obtain ⟨lines, others, -, -, -, secondPrints, wholePrints, -, -⟩ :=
    two_passes_equal_one FileTree.host FileTree.readsOnly_host Config.standard rfl
      (pairTree "a" "c" first whole) (pairTree "s" "b" saved second) none trivial
      "a" "b" "c" [.execute creation] [.execute .reportStatus]
      firstLoaded secondLoaded wholeLoaded "s" "t" "t"
      (FileTree.keeps_of_target_eq_ok savedFree)
      (FileTree.keeps_of_target_eq_ok laterFree)
      (FileTree.keeps_of_target_eq_ok wholeFree) kept.symm
  exact ⟨_, lines, others, secondPrints, wholePrints⟩

end OnboardStorage.CommandLine
