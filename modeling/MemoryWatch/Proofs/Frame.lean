import MemoryWatch.Proofs.Once
import MemoryWatch.Proofs.Overwriting
import MemoryWatch.Proofs.Scene
import MemoryWatch.Proofs.Upkeep
import MemoryWatch.Proofs.Walks

/-!
# What a watcher does to the files

A watcher changes the files in one way only.  A subscription that comes to its
write call puts the text of the registration over the beginning of the regular
file that the path of the control file has named, as far as this file takes
bytes.  Nothing is made, taken away, renamed or shortened by it, and no other
file is changed.  Everything else that happens to the files in an operation is
what others do while a watch waits or hands a record to its sink.
-/

namespace MemoryWatch

open Relation

/-- What a regular file takes of the bytes of a write call. -/
def Storage.takes (storage : Storage) (bytes : List UInt8) : List UInt8 :=
  match storage with
  | ample => bytes
  | lacking missing => bytes.take (bytes.length - missing)
  | failing _ => []

/-- What a regular file answers to a write call. -/
def Storage.answer (storage : Storage) (bytes : List UInt8) :
    Answer SystemError Nat :=
  match storage with
  | ample => .done bytes.length
  | lacking missing => .done (bytes.take (bytes.length - missing)).length
  | failing cause => .failed cause

/-- A file that counts all bytes as written has taken all of them. -/
theorem Storage.takes_of_answer {storage : Storage} {bytes : List UInt8}
    (whole : storage.answer bytes = .done bytes.length) :
    storage.takes bytes = bytes := by
  cases storage with
  | ample => rfl
  | lacking missing =>
      injection whole with whole
      rw [List.length_take] at whole
      exact List.take_of_length_le (by omega)
  | failing cause => cases whole

namespace Host

variable {host after : Host}

theorem create_snd (host : Host) (content : OpenContent) :
    ∃ openFiles table,
      (host.create content).2 = { host with openFiles, table } := by
  rw [create]
  split
  · exact ⟨_, _, rfl⟩
  · exact ⟨host.openFiles, host.table, rfl⟩

theorem openPath_snd (host : Host) (path : Path) (access : Access) :
    ∃ openFiles table,
      (host.openPath path access).2 = { host with openFiles, table } := by
  rcases result : host.openPath path access with ⟨cause | descriptor, after⟩
  · rw [openPath_error result]
    exact ⟨host.openFiles, host.table, rfl⟩
  · obtain ⟨_, content, _, _, created⟩ := openPath_ok result
    obtain ⟨openFiles, table, made⟩ := host.create_snd content
    rw [created] at made
    exact ⟨openFiles, table, made⟩

theorem write_of_endpoint {descriptor : Descriptor} {location : Location}
    {impatient : Bool}
    (file : host.openFile? descriptor = some ⟨.endpoint location, impatient⟩)
    (bytes : List UInt8) :
    (host.write descriptor bytes).2 =
      { host with
        tree := host.tree.overwrite location (host.storage.takes bytes) } := by
  rw [write, file]
  obtain ⟨tree, openFiles, table, allowance, storage⟩ := host
  cases storage with
  | ample => rfl
  | lacking missing => rfl
  | failing cause => simp only [Storage.takes, FileTree.overwrite_nil]

theorem write_fst_of_endpoint {descriptor : Descriptor}
    {location : Location} {impatient : Bool}
    (file : host.openFile? descriptor = some ⟨.endpoint location, impatient⟩)
    (bytes : List UInt8) :
    (host.write descriptor bytes).1 = host.storage.answer bytes := by
  rw [write, file]
  dsimp only
  cases kind : host.storage <;> rfl

theorem write_of_device {descriptor : Descriptor} {device : Device}
    {impatient : Bool}
    (file : host.openFile? descriptor =
      some ⟨.device device .writing, impatient⟩)
    (bytes : List UInt8) : (host.write descriptor bytes).2 = host := by
  rw [write, file]
  cases device <;> rfl

/-- Only regular files and devices are opened for writing. -/
theorem contentOf_writing {location : Location} {node : Node}
    {content : OpenContent}
    (given : contentOf location .writing node = .ok content) :
    (∃ stored, node = .file stored ∧ content = .endpoint location) ∨
      ∃ device, node = .device device ∧ content = .device device .writing := by
  cases node with
  | directory children => cases given
  | file stored =>
      cases given
      exact Or.inl ⟨stored, rfl, rfl⟩
  | link target => cases given
  | device device =>
      cases device with
      | barred cause => cases given
      | null | full | zero =>
          cases given
          exact Or.inr ⟨_, rfl, rfl⟩

end Host

/-! ## Registrations -/

namespace FileTree

/-- One tree after another between which the text of a registration was written
to the regular file that the path of the control file names. -/
def Registers (root : Path) (storage : Storage) (text : String)
    (before after : FileTree) : Prop :=
  ∃ visit content,
    before.resolve (Cgroup.eventControl root) = .ok visit ∧
      before.content? visit.location = some content ∧
      Overwrites visit.location (storage.takes (Utf8.ofString text)) before
        after

/-- One tree after another between which the file that a path names took some
bytes.  A regular file has them at its beginning then; a device leaves the files
alone. -/
inductive Takes (before : FileTree) (path : Path) (bytes : List UInt8) :
    FileTree → Prop
  | file {after : FileTree} {visit : Visit} {stored : List UInt8}
      (resolved : before.resolve path = .ok visit)
      (node : visit.node = .file stored)
      (overwrites : Overwrites visit.location bytes before after) :
      Takes before path bytes after
  | device {visit : Visit} {device : Device}
      (resolved : before.resolve path = .ok visit)
      (node : visit.node = .device device) :
      Takes before path bytes before

/-- A regular file that a path names is where the path leads. -/
theorem nodeAt_of_resolve {tree : FileTree} {path : Path} {visit : Visit}
    {stored : List UInt8} (resolved : tree.resolve path = .ok visit)
    (node : visit.node = .file stored) :
    tree.nodeAt visit.location = some (.file stored) := by
  rw [resolve] at resolved
  split at resolved
  · cases resolved
  · obtain placed | gone := nodeAt_of_locate resolved
    · rw [placed, node]
    · rw [node] at gone
      cases gone

end FileTree

theorem Registration.length_le_of_message {channel oomControl : Int}
    {capacity : Nat} {text : String}
    (named : message channel oomControl capacity = .ok text) :
    (Utf8.ofString text).length ≤ capacity := by
  rw [message] at named
  split at named
  · cases named
  · next fits =>
      cases named
      exact Nat.le_of_not_lt fits

namespace Environment

theorem scene_openPath (env : Environment) (path : Path) (access : Access) :
    (env.openPath path access).2.scene = env.scene := by
  obtain ⟨openFiles, table, opened⟩ := env.host.openPath_snd path access
  rw [openPath]
  revert opened
  rcases env.host.openPath path access with ⟨cause | descriptor, host⟩ <;>
    (rintro rfl; rfl)

/-- A descriptor that is opened is for the node that the path names. -/
theorem file_of_openPath {env after : Environment} {path : Path}
    {access : Access} {descriptor : Descriptor}
    (opened : env.openPath path access = (.ok descriptor, after)) :
    ∃ visit content, env.host.tree.resolve path = .ok visit ∧
      Host.contentOf visit.location access visit.node = .ok content ∧
      after.host.openFile? descriptor = some { content } := by
  rw [openPath] at opened
  rcases found : env.host.openPath path access with ⟨cause | other, host⟩
  · simp [found] at opened
  · simp only [found] at opened
    cases opened
    obtain ⟨visit, content, resolved, given, created⟩ :=
      Host.openPath_ok found
    have attached := Host.openFile?_attach_self env.host { content }
    rw [Host.create_ok created] at attached
    exact ⟨visit, content, resolved, given, attached⟩

theorem scene_closeHeld (env : Environment) (held : Option Descriptor) :
    (env.closeHeld held).scene = env.scene := by
  cases held <;> rfl

end Environment

namespace Watcher

variable {watcher next : Watcher} {env after ready : Environment}
  {result : Except WatchError Unit}

namespace OpensControls

variable {channel control oomControl : Descriptor}

theorem scene
    (controls : watcher.OpensControls env channel control oomControl ready) :
    ready.scene = env.scene := by
  obtain ⟨first, second, opened, further, rfl⟩ := controls.opened
  have begun := env.scene_openPath
    (Cgroup.eventControl watcher.settings.cgroup) .writing
  have ended := (first.closeHeld watcher.handles.eventControl).scene_openPath
    (Cgroup.oomControl watcher.settings.cgroup) .reading
  rw [opened] at begun
  rw [further] at ended
  rw [Environment.scene_closeHeld, ended, Environment.scene_closeHeld, begun]

/-- The control file is still open for the write call as it was opened. -/
theorem opensControl
    (controls : watcher.OpensControls env channel control oomControl ready)
    (coherent : env.host.IsCoherent)
    (placed : ∀ kind descriptor,
      watcher.handles.descriptor? kind = some descriptor →
        ∃ position, env.host.position? descriptor = some position) :
    ∃ visit content,
      env.host.tree.resolve (Cgroup.eventControl watcher.settings.cgroup) =
          .ok visit ∧
        Host.contentOf visit.location .writing visit.node = .ok content ∧
        ready.host.openFile? control = some { content } := by
  obtain ⟨first, second, opened, further, rfl⟩ := controls.opened
  have opens := Environment.opens_openPath coherent opened
  obtain ⟨visit, content, resolved, given, file⟩ :=
    Environment.file_of_openPath opened
  refine ⟨visit, content, resolved, given, ?_⟩
  -- Neither of the two handles that may be given up is the new descriptor.
  have unheld : ∀ kind, watcher.handles.descriptor? kind ≠ some control := by
    intro kind held
    obtain ⟨position, located⟩ := placed kind control held
    rw [opens.makes.free] at located
    cases located
  have halfway := first.keeps_closeHeld (unheld .eventControl)
  have between : (first.closeHeld
      watcher.handles.eventControl).host.IsCoherent :=
    Environment.isCoherent_closeHeld opens.makes.coherent _
  have located := halfway.position.trans opens.makes.position
  have kept := (Environment.opens_openPath between further).makes.keeps
    control _ located
  have last := second.keeps_closeHeld (unheld .oomControl)
  exact ((halfway.trans kept).trans last).file.trans file

/-- The write call of a registration is answered at once.  It changes nothing
but the control file, as far as this takes the bytes. -/
theorem takes {bytes : List UInt8} {answer : Answer SystemError Nat}
    (controls : watcher.OpensControls env channel control oomControl ready)
    (coherent : env.host.IsCoherent)
    (placed : ∀ kind descriptor,
      watcher.handles.descriptor? kind = some descriptor →
        ∃ position, env.host.position? descriptor = some position)
    (writes : Registration.Writes control bytes answer ready after) :
    answer ≠ .blocked ∧
      ∃ tree, after.host = { ready.host with tree } ∧
        env.host.tree.Takes (Cgroup.eventControl watcher.settings.cgroup)
          (env.host.storage.takes bytes) tree ∧
        (answer = .done bytes.length →
          env.host.tree.Takes (Cgroup.eventControl watcher.settings.cgroup)
            bytes tree) := by
  obtain ⟨visit, content, resolved, given, file⟩ :=
    controls.opensControl coherent placed
  have tree : ready.host.tree = env.host.tree :=
    congrArg Scene.tree controls.scene
  have storage : ready.host.storage = env.host.storage :=
    congrArg Scene.storage controls.scene
  rw [writes.host, ← writes.answered]
  obtain ⟨stored, node, rfl⟩ | ⟨device, node, rfl⟩ :=
    Host.contentOf_writing given
  · have stands := FileTree.nodeAt_of_resolve resolved node
    rw [Host.write_of_endpoint file, Host.write_fst_of_endpoint file, tree]
    refine ⟨?_, _, rfl, ?_, ?_⟩
    · cases ready.host.storage <;> simp [Storage.answer]
    · rw [storage]
      exact .file resolved node (FileTree.overwrites _ stands)
    · intro whole
      rw [Storage.takes_of_answer whole]
      exact .file resolved node (FileTree.overwrites _ stands)
  · rw [Host.write_of_device file]
    refine ⟨?_, env.host.tree, by rw [← tree], .device resolved node,
      fun _ => .device resolved node⟩
    rw [Host.write, file]
    cases device <;> simp

/-- The write call of a registration changes the control file, if that is a
regular file, and nothing else. -/
theorem registers {text : String} {answer : Answer SystemError Nat}
    (controls : watcher.OpensControls env channel control oomControl ready)
    (owns : watcher.Owns env)
    (writes : Registration.Writes control (Utf8.ofString text) answer ready
      after) :
    after.host.storage = env.host.storage ∧
      (after.host.tree = env.host.tree ∨
        FileTree.Registers watcher.settings.cgroup env.host.storage text
          env.host.tree after.host.tree) := by
  obtain ⟨_, tree, host, took, _⟩ :=
    controls.takes owns.coherent owns.placed writes
  rw [host]
  refine ⟨congrArg Scene.storage controls.scene, ?_⟩
  cases took with
  | file resolved node overwrites =>
      obtain ⟨content, stands, _⟩ := overwrites.there
      exact Or.inr ⟨_, content, resolved, stands, overwrites⟩
  | device resolved node => exact Or.inl rfl

end OpensControls

/-- A subscription writes at most one registration, of which it keeps the
text. -/
theorem Subscribing.files
    (subscribing : Subscribing watcher env result next after)
    (owns : watcher.Owns env) :
    after.host.storage = env.host.storage ∧
      (after.host.tree = env.host.tree ∨
        watcher.handles.registration = none ∧ ∃ text,
          next.handles.registration = some text ∧
          (Utf8.ofString text).length ≤ Registration.capacity ∧
          FileTree.Registers watcher.settings.cgroup env.host.storage text
            env.host.tree after.host.tree) := by
  cases subscribing with
  | refused fault => exact ⟨rfl, Or.inl rfl⟩
  | noEventControl cause unmarked => exact ⟨rfl, Or.inl rfl⟩
  | @noOomControl _ opened cause unmarked open_ held =>
      have scene := env.scene_openPath
        (Cgroup.eventControl watcher.settings.cgroup) .writing
      rw [open_] at scene
      have same : (opened.closeHeld watcher.handles.eventControl).scene =
          env.scene :=
        (opened.scene_closeHeld _).trans scene
      exact ⟨congrArg Scene.storage same, Or.inl (congrArg Scene.tree same)⟩
  | unwritten error controls unnamed =>
      exact ⟨congrArg Scene.storage controls.scene,
        Or.inl (congrArg Scene.tree controls.scene)⟩
  | rejected controls named writes strict incomplete =>
      obtain ⟨storage, same | registers⟩ := controls.registers owns writes
      · exact ⟨storage, Or.inl same⟩
      · exact ⟨storage, Or.inr ⟨controls.unmarked, _, rfl,
          Registration.length_le_of_message named, registers⟩⟩
  | accepted event controls named writes passed =>
      obtain ⟨storage, same | registers⟩ := controls.registers owns writes
      · exact ⟨storage, Or.inl same⟩
      · exact ⟨storage, Or.inr ⟨controls.unmarked, _, rfl,
          Registration.length_le_of_message named, registers⟩⟩

theorem scene_setup (watcher : Watcher) (env : Environment) :
    (watcher.setup env).2.2.scene = env.scene := by
  obtain ⟨openFiles, table, made⟩ := env.host.create_snd (.counter 0)
  rw [setup]
  split
  · rfl
  · rw [Channel.create, Environment.create]
    revert made
    rcases env.host.create (.counter 0) with ⟨cause | channel, host⟩ <;>
      (rintro rfl; rfl)

theorem scene_closeHandles (handles : List (HandleKind × Descriptor))
    (env : Environment) : (handles.foldl closeHandle env).scene = env.scene := by
  obtain ⟨table, log, trace, closed⟩ := closeHandles_eq handles env
  rw [closed]
  rfl

theorem scene_notifier (watcher : Watcher) (env : Environment) :
    (watcher.notifier env).2.scene = env.scene := by
  obtain same | ⟨channel, _, made⟩ := watcher.notifier_cases env
  · rw [same]
  · have table : ∃ table, (env.host.duplicate channel).2 =
        { env.host with table } := by
      rw [Host.duplicate]
      split
      · exact ⟨env.host.table, rfl⟩
      · split
        · exact ⟨env.host.table, rfl⟩
        · split
          · exact ⟨_, rfl⟩
          · exact ⟨env.host.table, rfl⟩
    obtain ⟨table, duplicated⟩ := table
    rw [made, Channel.notifier]
    dsimp only
    rw [duplicated]
    rfl

/-- What others do when whoever cancels a watch does so through a counter. -/
structure Abides (watcher : Watcher) (before after : Environment) : Prop where
  outside : watcher.Outside before after
  canceller : ∀ handle, after.canceller = some handle →
    ∃ sum, after.host.pending? handle = some sum

end Watcher

/-! ## Operations and the files -/

/-- The channel of a watcher is an event counter, and so is the handle with
which others can cancel it. -/
structure Session.Armed (session : Session) : Prop where
  owns : session.watcher.Owns session.env
  channel : ∀ channel, session.watcher.handles.channel = some channel →
    ∃ sum, session.env.host.pending? channel = some sum
  canceller : ∀ handle, session.env.canceller = some handle →
    ∃ sum, session.env.host.pending? handle = some sum

namespace Session.Armed

variable {session : Session} {after : Environment}

theorem counts (armed : session.Armed) {channel : Descriptor}
    (held : session.watcher.handles.channel = some channel) :
    session.env.Counts channel :=
  ⟨armed.channel channel held, armed.canceller⟩

theorem tends {after : Session} (armed : session.Armed)
    (tends : session.Tends after) : after.Armed where
  owns := tends.owns
  channel := tends.counts armed.channel
  canceller handle through := by
    have before := tends.canceller.symm.trans through
    obtain ⟨sum, counted⟩ := armed.canceller handle before
    exact ⟨sum, (tends.guarded handle (Or.inr before)).pending?.trans counted⟩

theorem watch (armed : session.Armed) : session.watch.Armed := by
  cases watched : session.watcher.watched? with
  | none =>
      obtain ⟨fault, refused⟩ :=
        Watcher.watch_of_not_watched? watched session.env
      rw [Session.watch, refused]
      exact armed
  | some channel =>
      have held := (Watcher.watched?_eq_some_iff.mp watched).2
      have counts := (armed.counts held).motions (.watch watched session.env)
      refine ⟨armed.owns.stays (session.watcher.stays_watch session.env), ?_,
        counts.canceller⟩
      intro other same
      cases held.symm.trans same
      exact counts.channel

theorem outside (armed : session.Armed)
    (abides : session.watcher.Abides session.env after) :
    (session.elapse after).Armed := by
  refine ⟨armed.owns.outside abides.outside, ?_, abides.canceller⟩
  intro channel held
  obtain ⟨sum, counted⟩ := armed.channel channel held
  cases abides.outside with
  | @notified _ other count _ same =>
      obtain ⟨more, now, _⟩ :=
        session.env.host.raises_write channel other count sum counted
      rw [Environment.add_snd]
      exact ⟨more, now⟩
  | elsewhere changes =>
      have keeps := changes.held .channel channel held
      exact ⟨sum, keeps.pending?.trans counted⟩

theorem kept : Kept Watcher.Abides Session.Armed where
  setup session armed := armed.tends (session.tends_setup armed.owns)
  subscribe session armed := armed.tends (session.tends_subscribe armed.owns)
  watch _ armed := armed.watch
  cleanup session armed := armed.tends (session.tends_cleanup armed.owns)
  notifier session armed :=
    armed.tends (session.tends_elapse_notifier armed.owns)
  note _ event armed :=
    ⟨armed.owns.note event, armed.channel, armed.canceller⟩
  outside _ _ armed abides := armed.outside abides

theorem of_fresh (fresh : session.IsFresh)
    (canceller : ∀ handle, session.env.canceller = some handle →
      ∃ sum, session.env.host.pending? handle = some sum) :
    session.Armed := by
  refine ⟨fresh.owns, ?_, canceller⟩
  intro channel held
  rw [fresh.handles] at held
  cases held

end Session.Armed

namespace Operation

/-- The operations that may write a registration. -/
def registers : Operation → Bool
  | subscribe | run => true
  | setup | watch | cleanup | notifier => false

/-- The operations during which others act. -/
def waits : Operation → Bool
  | watch | run => true
  | setup | subscribe | cleanup | notifier => false

end Operation

namespace Session

variable {session : Session}

/-- The files after the watcher itself has changed them in an operation: they
are as they were, or a registration was written. -/
inductive Touches (session after : Session) : FileTree → Prop
  | untouched : Touches session after session.env.host.tree
  | registered {tree : FileTree} {text : String}
      (unmarked : session.watcher.handles.registration = none)
      (marked : after.watcher.handles.registration = some text)
      (short : (Utf8.ofString text).length ≤ Registration.capacity)
      (registers : FileTree.Registers session.watcher.settings.cgroup
        session.env.host.storage text session.env.host.tree tree) :
      Touches session after tree

/-- What an operation of a watcher does to the files.  It may write one
registration, if it is of the kind that does, and after that the files change
by what others do, if it is of the kind that waits for them. -/
def Frames (session : Session) (operation : Operation) : Prop :=
  ∃ middle,
    session.Touches (session.perform operation) middle ∧
      (operation.registers = false → middle = session.env.host.tree) ∧
      Scene.Passes { session.env.scene with tree := middle }
        (session.perform operation).env.scene ∧
      (operation.waits = false →
        (session.perform operation).env.host.tree = middle)

theorem frames_of_scene {operation : Operation}
    (same : (session.perform operation).env.scene = session.env.scene) :
    session.Frames operation := by
  refine ⟨session.env.host.tree, .untouched, fun _ => rfl, ?_, fun _ => ?_⟩
  · rw [same]
    exact .refl
  · exact congrArg Scene.tree same

theorem touches_subscribe (armed : session.Armed) :
    session.Touches session.subscribe session.subscribe.env.host.tree ∧
      session.subscribe.env.scene =
        { session.env.scene with
          tree := session.subscribe.env.host.tree } := by
  have works := session.watcher.works_subscribe session.env
  obtain ⟨storage, files⟩ :=
    (session.watcher.subscribing_subscribe session.env).files armed.owns
  have scene : session.subscribe.env.scene =
      { session.env.scene with tree := session.subscribe.env.host.tree } := by
    rw [Session.subscribe, Environment.scene, storage, works.sink,
      works.schedule]
    rfl
  refine ⟨?_, scene⟩
  obtain same | ⟨unmarked, text, marked, short, registers⟩ := files
  · rw [Session.subscribe, same]
    exact .untouched
  · exact .registered unmarked marked short registers

theorem passes_watch (armed : session.Armed) :
    Scene.Passes session.env.scene session.watch.env.scene :=
  Scene.passes_watch fun _ watched =>
    armed.counts (Watcher.watched?_eq_some_iff.mp watched).2

theorem scene_surrender (session : Session) :
    session.surrender.env.scene = session.env.scene :=
  Watcher.scene_closeHandles session.watcher.handles.held session.env

/-- What was written depends on a later session by the text that it keeps. -/
theorem Touches.of_registration {after later : Session} {tree : FileTree}
    (touches : session.Touches after tree)
    (same : later.watcher.handles.registration =
      after.watcher.handles.registration) : session.Touches later tree := by
  cases touches with
  | untouched => exact .untouched
  | registered unmarked marked short registers =>
      exact .registered unmarked (same.trans marked) short registers

/-- Setting up first makes no difference to what a subscription writes. -/
theorem Touches.of_setup {after : Session} {tree : FileTree}
    (touches : session.setup.Touches after tree) :
    session.Touches after tree := by
  have scene := session.watcher.scene_setup session.env
  have files : session.setup.env.host.tree = session.env.host.tree :=
    congrArg Scene.tree scene
  have storage : session.setup.env.host.storage = session.env.host.storage :=
    congrArg Scene.storage scene
  have mark := session.watcher.registration_setup session.env
  have settings : session.setup.watcher.settings = session.watcher.settings :=
    session.watcher.settings_setup session.env
  cases touches with
  | untouched =>
      rw [files]
      exact .untouched
  | registered unmarked marked short registers =>
      rw [settings, files, storage] at registers
      exact .registered (mark.symm.trans unmarked) marked short registers

/-- The operations of a run, one by one, write one registration at most, and
others act after that. -/
theorem touches_oneByOne (armed : session.Armed) {hand : Session}
    {answer : Answer WatchError Summary}
    (called : OneByOne session answer hand) :
    ∃ middle, session.Touches hand middle ∧
      Scene.Passes { session.env.scene with tree := middle }
        hand.env.scene := by
  have setUp : session.setup.env.scene = session.env.scene :=
    session.watcher.scene_setup session.env
  have ready := armed.tends (session.tends_setup armed.owns)
  have registered := ready.tends (session.setup.tends_subscribe ready.owns)
  obtain ⟨touches, subscribed⟩ := touches_subscribe ready
  rw [setUp] at subscribed
  cases called with
  | notSetUp failed =>
      exact ⟨session.env.host.tree, .untouched, by rw [setUp]; exact .refl⟩
  | notSubscribed set failed =>
      exact ⟨_, touches.of_setup, by rw [subscribed]⟩
  | watched set through =>
      have watching := passes_watch registered
      rw [subscribed] at watching
      have touched : session.setup.Touches session.setup.subscribe.watch _ :=
        touches.of_registration rfl
      exact ⟨_, touched.of_setup, watching⟩

theorem frames_run (armed : session.Armed) : session.Frames .run := by
  obtain ⟨hand, called, blocked, returned⟩ := Watcher.oneByOne_run session
  obtain ⟨middle, touches, passes⟩ := touches_oneByOne armed called
  refine ⟨middle, ?_, by simp [Operation.registers], ?_,
    by simp [Operation.waits]⟩
  all_goals
    rw [perform]
    by_cases unblocked : (session.watcher.run session.env).1 = .blocked
  · rwa [blocked unblocked]
  · rw [returned unblocked]
    exact touches.of_registration rfl
  · rwa [blocked unblocked]
  · rw [returned unblocked, scene_surrender]
    exact passes

theorem frames_perform (armed : session.Armed) (operation : Operation) :
    session.Frames operation := by
  cases operation with
  | setup => exact frames_of_scene (session.watcher.scene_setup session.env)
  | subscribe =>
      obtain ⟨touches, subscribed⟩ := touches_subscribe armed
      refine ⟨session.subscribe.env.host.tree, touches,
        by simp [Operation.registers], ?_, fun _ => rfl⟩
      rw [perform, subscribed]
  | watch =>
      exact ⟨session.env.host.tree, .untouched, fun _ => rfl,
        passes_watch armed, by simp [Operation.waits]⟩
  | run => exact frames_run armed
  | cleanup =>
      exact frames_of_scene (Watcher.scene_closeHandles
        session.watcher.handles.held session.env)
  | notifier =>
      exact frames_of_scene (session.watcher.scene_notifier session.env)

end Session

/-- Whatever a watcher has gone through and whatever the files are, an operation
changes nothing but the beginning of the regular file that the path of its
control file names, and only when it comes to the write call of its
registration. -/
theorem Course.frames {origin session : Session} (fresh : origin.IsFresh)
    (canceller : ∀ handle, origin.env.canceller = some handle →
      ∃ sum, origin.env.host.pending? handle = some sum)
    (course : Course Watcher.Abides origin session) (operation : Operation) :
    session.Frames operation :=
  Session.frames_perform
    (course.keeps Session.Armed.kept (.of_fresh fresh canceller)) operation

namespace Session

/-- What makes a cgroup whose control file is a link to a longer file. -/
def linkedActions : List Action :=
  [.makeDirectories sampleCgroup,
    .writeFile ⟨[0x61]⟩ (Utf8.ofString "abcdefgh"),
    .makeLink (Cgroup.eventControl sampleCgroup) ⟨Utf8.ofString "../a"⟩,
    .writeFile (Cgroup.oomControl sampleCgroup) []]

/-- Where the file of the sample is. -/
def linkedLocation : Location :=
  [Utf8.ofString "tmp", [], [0x61]]

def linkedSample : Session :=
  (sample linkedActions).setup

/-- The subscription of the sample writes through the link and leaves the rest
of the file as it was. -/
theorem frames_linkedSample :
    (sample linkedActions).IsFresh ∧
      (∀ handle, (sample linkedActions).env.canceller = some handle →
        ∃ sum, (sample linkedActions).env.host.pending? handle = some sum) ∧
      Course Watcher.Abides (sample linkedActions) linkedSample ∧
      linkedSample.Frames .subscribe ∧
      linkedSample.env.host.tree.content? linkedLocation =
        some (Utf8.ofString "abcdefgh") ∧
      linkedSample.subscribe.env.host.tree.content? linkedLocation =
        some (Utf8.ofString "4 6defgh") := by
  have fresh : (sample linkedActions).IsFresh :=
    isFresh_sample_of (by decide +kernel) (by decide +kernel)
  have counted : ∀ handle,
      (sample linkedActions).env.canceller = some handle →
      ∃ sum, (sample linkedActions).env.host.pending? handle = some sum := by
    rintro _ ⟨⟩
    exact ⟨0, by decide +kernel⟩
  have course : Course Watcher.Abides (sample linkedActions) linkedSample :=
    .perform .origin .setup
  exact ⟨fresh, counted, course, course.frames fresh counted .subscribe,
    by decide +kernel, by decide +kernel⟩

end Session

end MemoryWatch
