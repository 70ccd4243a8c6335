import MemoryWatch.Proofs.Concord
import MemoryWatch.Proofs.Patience
import MemoryWatch.Proofs.Wakening

/-!
# Draining another file

Another file can come to stand where the event channel was.  A regular file and
a pipe without a writer have something to tell at every look, down to their end,
so a watch never waits for them.  It takes eight bytes at a time and reports
them as one counter.  The read that gets fewer than eight ends the watch; these
bytes are not reported, and the watcher keeps its descriptors.

The wait before a read is a call of its own, and it fails when it is about more
descriptors than the process may have.  Then the watch ends with what was read
until then.
-/

namespace MemoryWatch

namespace Counter

/-- The bytes of the counter at an index. -/
def chunk (bytes : List UInt8) (index : Nat) : List UInt8 :=
  (bytes.drop (size * index)).take size

/-- The bytes after the last whole counter. -/
def tail (bytes : List UInt8) : List UInt8 :=
  bytes.drop (size * (bytes.length / size))

variable {bytes : List UInt8}

theorem length_chunk {index : Nat} (within : index < bytes.length / size) :
    (chunk bytes index).length = size := by
  have fits : size * (index + 1) ≤ bytes.length :=
    (Nat.mul_le_mul_left size within).trans (Nat.mul_div_le _ _)
  rw [chunk, List.length_take, List.length_drop, size] at *
  omega

theorem length_tail (bytes : List UInt8) :
    (tail bytes).length = bytes.length % size := by
  rw [tail, List.length_drop, size]
  omega

theorem chunk_succ (bytes : List UInt8) (index : Nat) :
    chunk bytes (index + 1) = chunk (bytes.drop size) index := by
  rw [chunk, chunk, List.drop_drop, Nat.mul_succ, Nat.add_comm]

theorem div_size_drop (long : size ≤ bytes.length) :
    bytes.length / size = (bytes.drop size).length / size + 1 := by
  rw [List.length_drop, size] at *
  omega

theorem mod_size_drop (long : size ≤ bytes.length) :
    bytes.length % size = (bytes.drop size).length % size := by
  rw [List.length_drop, size] at *
  omega

theorem tail_drop (long : size ≤ bytes.length) :
    tail bytes = tail (bytes.drop size) := by
  rw [tail, div_size_drop long, Nat.mul_succ, tail, List.drop_drop,
    Nat.add_comm]

/-- The chunks are the bytes up to the last whole counter. -/
theorem flatMap_chunk (bytes : List UInt8) (count : Nat) :
    (List.range count).flatMap (chunk bytes) = bytes.take (size * count) := by
  induction count with
  | zero => simp
  | succ count ih =>
      rw [List.range_succ, List.flatMap_append, ih, List.flatMap_singleton,
        chunk, Nat.mul_succ, List.take_add]

theorem littleEndian_ofLittleEndian (bytes : List UInt8) :
    littleEndian bytes.length (ofLittleEndian bytes) = bytes := by
  induction bytes with
  | nil => rfl
  | cons byte rest ih =>
      have small := byte.toNat_lt
      have low : (byte.toNat + 256 * ofLittleEndian rest) % 256 =
          byte.toNat := by omega
      have high : (byte.toNat + 256 * ofLittleEndian rest) / 256 =
          ofLittleEndian rest := by omega
      rw [ofLittleEndian, List.length_cons, littleEndian, low, high, ih,
        UInt8.ofNat_toNat]

theorem ofLittleEndian_lt (bytes : List UInt8) :
    ofLittleEndian bytes < 256 ^ bytes.length := by
  induction bytes with
  | nil => decide
  | cons byte rest ih =>
      have small := byte.toNat_lt
      rw [ofLittleEndian, List.length_cons, Nat.pow_succ]
      omega

theorem toBytes_ofBytes (whole : bytes.length = size) :
    toBytes (ofBytes bytes) = bytes := by
  have small : ofLittleEndian bytes < 2 ^ 64 := by
    simpa [whole, size] using ofLittleEndian_lt bytes
  rw [toBytes, ofBytes, UInt64.toNat_ofNat', Nat.mod_eq_of_lt small, ← whole,
    littleEndian_ofLittleEndian]

end Counter

/-- What is left to read of a file that nobody ever waits for and that has an
end: a regular file, or a pipe without a writer. -/
def OpenContent.remainder? : OpenContent → Option (List UInt8)
  | stored unread | pipe unread false => some unread
  | counter _ | pipe _ true | directory | endpoint _ | device _ _ => none

namespace Host

variable {host : Host} {descriptor other : Descriptor} {bytes : List UInt8}

/-- What is left to read behind a descriptor of such a file. -/
def remainder? (host : Host) (descriptor : Descriptor) : Option (List UInt8) :=
  (host.openFile? descriptor).bind fun file => file.content.remainder?

theorem remainder?_eq_some_iff :
    host.remainder? descriptor = some bytes ↔
      ∃ impatient,
        host.openFile? descriptor = some ⟨.stored bytes, impatient⟩ ∨
          host.openFile? descriptor = some ⟨.pipe bytes false, impatient⟩ := by
  rw [remainder?]
  rcases host.openFile? descriptor with _ | ⟨content, impatient⟩
  · simp
  cases content with
  | pipe unread hasWriter =>
      cases hasWriter <;> simp [OpenContent.remainder?]
  | stored unread | counter pending | directory | endpoint location
  | device device access => simp [OpenContent.remainder?]

theorem read_of_stored {impatient : Bool}
    (opened : host.openFile? descriptor = some ⟨.stored bytes, impatient⟩) :
    host.read descriptor = (.done (bytes.take Counter.size),
      host.update descriptor
        ⟨.stored (bytes.drop Counter.size), impatient⟩) := by
  rw [read, opened]

theorem read_of_pipe {impatient : Bool}
    (opened :
      host.openFile? descriptor = some ⟨.pipe bytes false, impatient⟩) :
    host.read descriptor = (.done (bytes.take Counter.size),
      host.update descriptor
        ⟨.pipe (bytes.drop Counter.size) false, impatient⟩) := by
  rw [read, opened]
  simp

/-- A read takes at most eight bytes of what is left. -/
theorem read_of_remainder? (left : host.remainder? descriptor = some bytes) :
    (host.read descriptor).1 = .done (bytes.take Counter.size) ∧
      (host.read descriptor).2.remainder? descriptor =
        some (bytes.drop Counter.size) := by
  obtain ⟨impatient, opened | opened⟩ := remainder?_eq_some_iff.mp left
  · rw [read_of_stored opened]
    exact ⟨rfl, remainder?_eq_some_iff.mpr
      ⟨impatient, Or.inl (openFile?_update opened _)⟩⟩
  · rw [read_of_pipe opened]
    exact ⟨rfl, remainder?_eq_some_iff.mpr
      ⟨impatient, Or.inr (openFile?_update opened _)⟩⟩

theorem write_of_remainder? (left : host.remainder? descriptor = some bytes)
    (written : List UInt8) :
    host.write descriptor written = (.failed .badDescriptor, host) := by
  obtain ⟨impatient, opened | opened⟩ := remainder?_eq_some_iff.mp left <;>
    rw [write, opened]

theorem any_readiness_of_remainder?
    (left : host.remainder? descriptor = some bytes) :
    (host.readiness descriptor).any = true := by
  obtain ⟨impatient, opened | opened⟩ := remainder?_eq_some_iff.mp left
  · rw [readiness_of_openFile? opened]
    rfl
  · rw [readiness_of_openFile? opened]
    simp [Readiness.ofContent, Readiness.any]

/-- Reading what is left of a file does not make a file readable, be it that
one or another. -/
theorem readable_read (left : host.remainder? descriptor = some bytes)
    (unreadable : (host.readiness other).readable = false) :
    ((host.read descriptor).2.readiness other).readable = false := by
  have touches := host.touches_read descriptor
  by_cases same : host.position? descriptor = host.position? other
  · have sameAfter : (host.read descriptor).2.position? descriptor =
        (host.read descriptor).2.position? other := by
      rw [touches.position?, touches.position?, same]
    rw [← readiness_congr same] at unreadable
    rw [← readiness_congr sameAfter]
    obtain ⟨impatient, opened | opened⟩ := remainder?_eq_some_iff.mp left
    · rw [readiness_of_openFile? opened] at unreadable
      cases unreadable
    · obtain rfl : bytes = [] := by
        simpa [readiness_of_openFile? opened, Readiness.ofContent] using
          unreadable
      rw [read_of_pipe opened,
        readiness_of_openFile? (openFile?_update opened _)]
      rfl
  · rw [touches.readiness_of_ne same]
    exact unreadable

end Host

/-- The allowance after an action, in a process with so many descriptors. -/
def Action.onAllowance (openCount : Nat) (allowance : Allowance) :
    Action → Allowance
  | allowMore descriptors => .upTo (openCount + descriptors)
  | allowNone => .nothing
  | allowAll => .unlimited
  | makeDirectories _ | writeFile _ _ | makeLink _ _ | remove _ | rename _ _
  | notify _ | cancel | interrupt | expire | shutdown => allowance

namespace Environment

variable {env : Environment} {channel : Descriptor} {bytes : List UInt8}

/-- The surroundings after what some actions do to the files and to the
allowance. -/
def afflict (env : Environment) (actions : List Action) : Environment :=
  { env with
    host := { env.host with
      tree := actions.foldl Action.onFiles env.host.tree
      allowance := actions.foldl (Action.onAllowance env.host.openCount)
        env.host.allowance } }

theorem afflict_append (env : Environment) (actions more : List Action) :
    env.afflict (actions ++ more) = (env.afflict actions).afflict more := by
  simp only [afflict, List.foldl_append]
  rfl

/-- With such a file behind the channel, others change the files and the
allowance and nothing else, unless they fire the cancel handle. -/
theorem act_of_remainder? (left : env.host.remainder? channel = some bytes)
    {action : Action} (quiet : action.fires = false) :
    (env.act (some channel) action).2 = env.afflict [action] := by
  cases action with
  | makeDirectories path | remove path | interrupt | expire => rfl
  | writeFile path content | makeLink path target | rename path target =>
      simp only [act, edit, afflict, List.foldl_cons, List.foldl_nil,
        Action.onFiles]
      split
      · next failed => rw [failed]; rfl
      · next changed => rw [changed]; rfl
  | notify count =>
      change (env.add channel count).2 = env
      rw [add_snd, Host.write_of_remainder? left]
      simp
  | cancel | shutdown => cases quiet
  | allowNone | allowMore descriptors | allowAll => rfl

theorem actAll_of_remainder? (left : env.host.remainder? channel = some bytes)
    {actions : List Action} (calm : ∀ action ∈ actions, action.fires = false) :
    env.actAll (some channel) actions = env.afflict actions := by
  induction actions generalizing env with
  | nil => rfl
  | cons action rest ih =>
      have acted := act_of_remainder? left (calm action (by simp))
      have further := @ih (env.act (some channel) action).2
      rw [acted] at further
      rw [actAll, List.foldl_cons, ← actAll, acted,
        further left fun other member => calm other (by simp [member])]
      rfl

/-- A willing sink takes the record, and what is scripted for its flush
happens. -/
theorem deliver_of_remainder? (left : env.host.remainder? channel = some bytes)
    (willing : env.sink.IsWilling)
    (calm : ∀ action ∈ env.sink.duringFlush.headD [], action.fires = false)
    (record : List UInt8) :
    ∃ sink, sink.IsWilling ∧
      sink.duringFlush = env.sink.duringFlush.tail ∧
      env.deliver (some channel) record =
        (.ok (),
          { env with sink }.afflict (env.sink.duringFlush.headD [])) := by
  obtain ⟨taken, still⟩ := willing.deliver record
  rcases handed : env.sink.deliver record with ⟨outcome, actions, sink⟩
  rw [handed] at taken still
  obtain rfl : outcome = .ok () := taken
  obtain ⟨rfl, flushed⟩ := Sink.deliver_ok handed
  refine ⟨sink, still, flushed, ?_⟩
  rw [deliver, handed]
  exact Prod.ext rfl
    (@actAll_of_remainder? { env with sink } channel bytes left _ calm)

end Environment

/-! ## Watches that drain a file -/

namespace Watcher

open Counter (chunk size)

variable {watcher : Watcher} {channel : Descriptor} {env : Environment}
  {bytes : List UInt8}

/-- Nothing cancels a watch or takes its cgroup away while so many records are
flushed, and each of its waits can begin. -/
structure Unhindered (watcher : Watcher) (count : Nat) (env : Environment) :
    Prop where
  /-- At the beginning and after each flush, the process may have as many
  descriptors as a wait is about: one, or two with a cancel handle. -/
  able : ∀ flushed ≤ count,
    ¬Channel.isBarred watcher.cancel
      (env.afflict (env.sink.duringFlush.take flushed).flatten)
  unfired : ∀ handle, watcher.cancel = some handle →
    (env.host.readiness handle).readable = false
  willing : env.sink.IsWilling
  calm : ∀ action ∈ (env.sink.duringFlush.take count).flatten,
    action.fires = false
  present : ∀ flushed < count,
    ((env.afflict (env.sink.duringFlush.take
      (flushed + 1)).flatten).host.tree.resolve
        watcher.settings.cgroup).isOk = true

/-- The outward steps of a watch that drains bytes: a report of each whole
counter, and the read that gets the bytes after the last one. -/
def drainage (watcher : Watcher) (bytes : List UInt8) : List Step :=
  (List.range (bytes.length / size)).flatMap (fun index =>
    [.waited watcher.limit (.done .notified), .read (.done (chunk bytes index)),
      .delivered (Counter.ofBytes (chunk bytes index)) (.ok ()),
      .probed true]) ++
    [.waited watcher.limit (.done .notified),
      .read (.done (Counter.tail bytes))]

theorem drainage_of_short (short : bytes.length < size) :
    watcher.drainage bytes =
      [.waited watcher.limit (.done .notified), .read (.done bytes)] := by
  rw [drainage, Counter.tail, Nat.div_eq_of_lt short]
  rfl

theorem drainage_of_long (long : size ≤ bytes.length) :
    watcher.drainage bytes =
      [.waited watcher.limit (.done .notified),
        .read (.done (bytes.take size)),
        .delivered (Counter.ofBytes (bytes.take size)) (.ok ()),
        .probed true] ++ watcher.drainage (bytes.drop size) := by
  rw [drainage, Counter.div_size_drop long, List.range_succ_eq_map,
    List.flatMap_cons, List.flatMap_map, Counter.tail_drop long, drainage]
  simp only [Counter.chunk_succ, List.append_assoc]
  rfl

theorem Unhindered.begins {count : Nat}
    (unhindered : watcher.Unhindered count env) :
    ¬Channel.isBarred watcher.cancel env :=
  unhindered.able 0 (Nat.zero_le count)

/-- A round on such a file waits for nothing and reads what is next. -/
theorem taking_of_remainder? (left : env.host.remainder? channel = some bytes)
    (able : ¬Channel.isBarred watcher.cancel env)
    (unfired : ∀ handle, watcher.cancel = some handle →
      (env.host.readiness handle).readable = false) :
    ∃ waited after,
      Channel.wait channel watcher.cancel watcher.settings.probeInterval env =
          (.done .notified, waited) ∧
        Channel.fetch channel waited = (.done (bytes.take size), after) ∧
        after.host = (env.host.read channel).2 ∧ after.sink = env.sink := by
  have ready := Host.any_readiness_of_remainder? left
  have heard : Channel.listen channel watcher.cancel watcher.limit env =
      (.done .notified, env) := by
    rw [Channel.listen, if_neg able,
      Channel.glance_eq_notified_iff.mpr ⟨unfired, Or.inl ready⟩]
  have waited := Channel.wait_of_listen heard
  obtain ⟨trace, fetched⟩ := Channel.fetch_eq channel
    (env.record (.waited watcher.limit (.done .notified)))
  have given := (Host.read_of_remainder? left).1
  exact ⟨_, _, waited, fetched.trans (Prod.ext given rfl), rfl, rfl⟩

/-- With less than a counter left, a round ends the watch. -/
theorem round_of_short (left : env.host.remainder? channel = some bytes)
    (unhindered : watcher.Unhindered 0 env) (short : bytes.length < size)
    (notifications : Nat) :
    ∃ after, watcher.round channel notifications env =
        .ended (.failed (.channelRead channel (.short bytes.length))) after ∧
      after.outward = env.outward ++ watcher.drainage bytes ∧
      after.host.remainder? channel = some [] := by
  obtain ⟨waited, after, waiting, fetched, host, _⟩ :=
    taking_of_remainder? left unhindered.begins unhindered.unfired
  have further := (Host.read_of_remainder? left).2
  rw [← host, List.drop_of_length_le (Nat.le_of_lt short)] at further
  rw [List.take_of_length_le (Nat.le_of_lt short)] at fetched
  have read : Channel.read channel waited =
      (.failed (.channelRead channel (.short bytes.length)), after) := by
    rw [Channel.read_eq, fetched]
    simp only [Channel.interpret, Channel.decode, Nat.ne_of_lt short, if_false]
  refine ⟨after, by simp only [round, waiting, report, read], ?_, further⟩
  obtain ⟨_, shown⟩ := Channel.outward_of_read read
  rw [shown, fetched, outward_of_wait waiting, List.append_assoc,
    drainage_of_short short]
  rfl

namespace Unhindered

theorem read {count : Nat} {after : Environment}
    (unhindered : watcher.Unhindered count env)
    (left : env.host.remainder? channel = some bytes)
    (host : after.host = (env.host.read channel).2)
    (sink : after.sink = env.sink) : watcher.Unhindered count after := by
  obtain ⟨openFiles, changed⟩ := env.host.read_snd channel
  have afflicted (actions : List Action) :
      (after.afflict actions).host.tree = (env.afflict actions).host.tree ∧
        (after.afflict actions).host.allowance =
          (env.afflict actions).host.allowance := by
    simp only [Environment.afflict, host, changed]
    exact ⟨trivial, rfl⟩
  refine ⟨?_, ?_, ?_, ?_, ?_⟩
  · intro flushed within
    rw [sink, Channel.isBarred, (afflicted _).2]
    exact unhindered.able flushed within
  · intro handle through
    rw [host]
    exact Host.readable_read left (unhindered.unfired handle through)
  · rw [sink]
    exact unhindered.willing
  · rw [sink]
    exact unhindered.calm
  · intro flushed within
    rw [sink, (afflicted _).1]
    exact unhindered.present flushed within

theorem flatten_take_succ {α : Type} (groups : List (List α)) (count : Nat) :
    (groups.take (count + 1)).flatten =
      groups.headD [] ++ (groups.tail.take count).flatten := by
  cases groups <;> simp

/-- A record is delivered, and the cgroup is there after its flush. -/
theorem deliver {count : Nat}
    (unhindered : watcher.Unhindered (count + 1) env)
    (left : env.host.remainder? channel = some bytes)
    (record : List UInt8) :
    ∃ after, env.deliver (some channel) record = (.ok (), after) ∧
      after.host.remainder? channel = some bytes ∧
      watcher.Unhindered count after ∧
      (after.host.tree.resolve watcher.settings.cgroup).isOk = true := by
  obtain ⟨able, unfired, willing, calm, present⟩ := unhindered
  simp only [flatten_take_succ, List.mem_append] at calm
  obtain ⟨sink, still, flushed, delivered⟩ :=
    Environment.deliver_of_remainder? left willing
      (fun action member => calm action (Or.inl member)) record
  have now := present 0 (Nat.succ_pos count)
  rw [flatten_take_succ, List.take_zero, List.flatten_nil,
    List.append_nil] at now
  refine ⟨_, delivered, left, ⟨?_, unfired, still, ?_, ?_⟩, now⟩
  · intro later within
    have ableThen := able (later + 1) (Nat.succ_le_succ within)
    rwa [flatten_take_succ, Environment.afflict_append, ← flushed] at ableThen
  · intro action member
    rw [← flushed] at calm
    exact calm action (Or.inr member)
  · intro later within
    have presentThen := present (later + 1) (Nat.succ_lt_succ within)
    rwa [flatten_take_succ, Environment.afflict_append, ← flushed]
      at presentThen

end Unhindered

/-- With a counter left, a round reports it and the watch goes on with the bytes
after it. -/
theorem round_of_long {count : Nat}
    (left : env.host.remainder? channel = some bytes)
    (unhindered : watcher.Unhindered (count + 1) env)
    (long : size ≤ bytes.length) (notifications : Nat) :
    ∃ after, watcher.round channel notifications env =
        .continued (notifications + 1) after ∧
      after.host.remainder? channel = some (bytes.drop size) ∧
      watcher.Unhindered count after ∧
      after.outward = env.outward ++
        [.waited watcher.limit (.done .notified),
          .read (.done (bytes.take size)),
          .delivered (Counter.ofBytes (bytes.take size)) (.ok ()),
          .probed true] := by
  obtain ⟨waited, after, waiting, fetched, host, sink⟩ :=
    taking_of_remainder? left unhindered.begins unhindered.unfired
  have whole : (bytes.take size).length = size :=
    List.length_take_of_le long
  have read : Channel.read channel waited =
      (.done (Counter.ofBytes (bytes.take size)), after) := by
    rw [Channel.read_eq, fetched]
    simp only [Channel.interpret, Channel.decode, whole, if_true]
  have further : after.host.remainder? channel = some (bytes.drop size) := by
    rw [host]
    exact (Host.read_of_remainder? left).2
  obtain ⟨delivered, handed, stays, later, present⟩ :=
    (unhindered.read left host sink : watcher.Unhindered (count + 1)
      (after.note _)).deliver further
      (watcher.record (Counter.ofBytes (bytes.take size)))
  obtain ⟨_, shown⟩ := outward_reporting waiting read handed
  rw [fetched] at shown
  generalize moment :
    delivered.record (.delivered (Counter.ofBytes (bytes.take size)) (.ok ())) =
      reported at shown
  have same : reported.host = delivered.host := by rw [← moment]; rfl
  refine ⟨reported.record (.probed true), ?_, ?_, ?_, ?_⟩
  · have handed : (after.note (.notified watcher.settings.cgroup
        (Counter.ofBytes (bytes.take size)))).deliver (some channel)
        (Record.encode watcher.settings.format watcher.settings.cgroup
          (Counter.ofBytes (bytes.take size))) = (.ok (), delivered) := handed
    simp only [round, waiting, report, read, handed, moment]
    exact afterProbe_of_present (same ▸ present) _
  · exact (congrArg (·.remainder? channel) same).trans stays
  · rw [← moment]
    exact ⟨later.able, later.unfired, later.willing, later.calm,
      later.present⟩
  · rw [Environment.outward_record _ rfl, shown, List.append_assoc]
    rfl

/-- The loop takes all whole counters, if it is given rounds enough. -/
theorem rounds_of_remainder?
    (left : env.host.remainder? channel = some bytes)
    (unhindered : watcher.Unhindered (bytes.length / size) env) {bound : Nat}
    (enough : bytes.length / size < bound) (notifications : Nat) :
    ∃ after, watcher.rounds channel bound notifications env =
        (.failed (.channelRead channel (.short (bytes.length % size))),
          after) ∧
      after.outward = env.outward ++ watcher.drainage bytes ∧
      after.host.remainder? channel = some [] := by
  induction bound generalizing env bytes notifications with
  | zero => cases enough
  | succ bound ih =>
      rcases Nat.lt_or_ge bytes.length size with short | long
      · rw [Nat.div_eq_of_lt short] at unhindered
        obtain ⟨after, ended, drained⟩ :=
          round_of_short left unhindered short notifications
        refine ⟨after, ?_, drained⟩
        rw [rounds, ended, Nat.mod_eq_of_lt short]
      · rw [Counter.div_size_drop long] at unhindered enough
        obtain ⟨next, continued, further, later, shown⟩ :=
          round_of_long left unhindered long notifications
        obtain ⟨after, ended, rest, empty⟩ := ih further later
          (Nat.lt_of_succ_lt_succ enough) (notifications + 1)
        refine ⟨after, ?_, ?_, empty⟩
        · rw [rounds, continued, Counter.mod_size_drop long]
          exact ended
        · rw [rest, shown, List.append_assoc, drainage_of_long long]

/-- The whole counters are what such a watch reads. -/
theorem filterMap_drainage (watcher : Watcher) (bytes : List UInt8) :
    (watcher.drainage bytes).filterMap Step.counter? =
      (List.range (bytes.length / size)).map fun index =>
        Counter.ofBytes (chunk bytes index) := by
  have short : (Counter.tail bytes).length ≠ size := by
    rw [Counter.length_tail]
    exact Nat.ne_of_lt (Nat.mod_lt _ (by decide))
  have none : Step.counter? (.read (.done (Counter.tail bytes))) = none := by
    rw [Step.counter?, Channel.decode, if_neg short]
    rfl
  have last : [Step.waited watcher.limit (.done .notified),
      .read (.done (Counter.tail bytes))].filterMap Step.counter? = [] := by
    rw [List.filterMap_cons_none rfl, List.filterMap_cons_none none]
    rfl
  rw [drainage, List.filterMap_append, last, List.append_nil,
    List.filterMap_flatMap, List.map_eq_flatMap]
  refine List.flatMap_congr fun index within => ?_
  have whole := Counter.length_chunk (List.mem_range.mp within)
  have value : Step.counter? (.read (.done (chunk bytes index))) =
      some (Counter.ofBytes (chunk bytes index)) := by
    rw [Step.counter?, Channel.decode, if_pos whole]
    rfl
  rw [List.filterMap_cons_none rfl, List.filterMap_cons_some value]
  rfl

theorem supply_of_remainder? {content : OpenContent}
    (left : content.remainder? = some bytes) :
    supply content = bytes.length + 1 := by
  cases content with
  | stored unread =>
      cases left
      rfl
  | pipe unread hasWriter =>
      cases hasWriter <;> cases left
      rfl
  | counter pending | directory | endpoint location
  | device device access => cases left

theorem div_lt_patience (left : env.host.remainder? channel = some bytes) :
    bytes.length / size < patience channel env := by
  obtain ⟨file, opened, unread⟩ := Option.bind_eq_some_iff.mp left
  have fewer := Nat.div_le_self bytes.length size
  rw [patience, opened, Option.map_some, Option.getD_some,
    supply_of_remainder? unread]
  omega

theorem isHonest_of_isWilling {sink : Sink} (willing : sink.IsWilling) :
    Sink.IsHonest sink.writes := by
  rintro answer member count rfl
  cases willing.writes _ member

/-- A watch on a regular file, or on a pipe without a writer, in place of the
event channel drains it and ends.  If nothing fails a wait, cancels the watch,
refuses a record or takes the cgroup away until then, it reports the counter in
every eight bytes, and is ended by the read that gets the bytes after the last
one.  These are not reported and no probe follows.  All descriptors are where
they were, and a cleanup gives each that is held up once. -/
theorem drainage_watch (watched : watcher.watched? = some channel)
    (left : env.host.remainder? channel = some bytes)
    (unhindered : watcher.Unhindered (bytes.length / size) env) :
    (watcher.watch env).1 =
        .failed (.channelRead channel (.short (bytes.length % size))) ∧
      (watcher.watch env).2.outward = env.outward ++ watcher.drainage bytes ∧
      (watcher.watch env).2.host.remainder? channel = some [] ∧
      (∃ calls, (watcher.watch env).2.sink.calls = env.sink.calls ++ calls ∧
        watcher.Reports ((List.range (bytes.length / size)).map fun index =>
          Counter.ofBytes (chunk bytes index)) calls ∧
        (watcher.settings.format = .binary →
          Sink.received calls =
            bytes.take (size * (bytes.length / size)))) ∧
      (∀ descriptor, (watcher.watch env).2.host.position? descriptor =
        env.host.position? descriptor) ∧
      (watcher.cleanup (watcher.watch env).2).2.2.trace =
        (watcher.watch env).2.trace ++
          watcher.handles.held.map fun handle => .closed handle.2 := by
  obtain ⟨after, ended, shown, empty⟩ :=
    rounds_of_remainder? left unhindered (div_lt_patience left) 0
  rw [← watch_of_watched? watched] at ended
  have honest := isHonest_of_isWilling unhindered.willing
  obtain ⟨counters, calls, read, called, told⟩ :=
    ((output_watch honest).2 channel watched).2
  have stays := (watcher.stays_watch env).position
  rw [ended] at read called told stays ⊢
  have counted := Environment.counters_of_outward shown
  rw [filterMap_drainage] at counted
  obtain rfl := List.append_cancel_left (read.symm.trans counted)
  obtain ⟨reports, received⟩ := told
  refine ⟨rfl, shown, empty, ⟨calls, called, reports, ?_⟩, stays,
    trace_closeHandles _ after⟩
  intro binary
  rw [received, List.flatMap_map, ← Counter.flatMap_chunk]
  refine List.flatMap_congr fun index within => ?_
  have whole := Counter.length_chunk (List.mem_range.mp within)
  rw [record, binary, Record.encode, Counter.toBytes_ofBytes whole]

/-- Records go out in binary. -/
def binarySample : Watcher :=
  { subscribedSample with
    settings := { subscribedSample.settings with format := .binary } }

/-- A regular file stands where the event channel was. -/
def foreignSample (bytes : List UInt8) (allowance : Allowance) : Environment :=
  { pendingSample with
    host :=
      { pendingSample.host.substitute 3 { content := .stored bytes } with
        allowance } }

/-- While the first record is flushed, somebody tries to notify the watcher and
makes a directory.  What is scheduled for a wait, a cancellation at last, never
happens. -/
def drainedSample : Environment :=
  let env := foreignSample
    [1, 0, 0, 0, 0, 0, 0, 0, 8, 7, 6, 5, 4, 3, 2, 1, 9] (.upTo 6)
  { env with
    sink := { env.sink with
      duringFlush := [[.notify 3, .makeDirectories ⟨[0x67, 0x2F, 0x61]⟩]] } }

theorem drainage_watch_drainedSample :
    binarySample.watched? = some 3 ∧
      drainedSample.host.remainder? 3 =
        some [1, 0, 0, 0, 0, 0, 0, 0, 8, 7, 6, 5, 4, 3, 2, 1, 9] ∧
      binarySample.Unhindered 2 drainedSample ∧
      (binarySample.watch drainedSample).1 =
        .failed (.channelRead 3 (.short 1)) ∧
      ∃ calls, (binarySample.watch drainedSample).2.sink.calls =
          drainedSample.sink.calls ++ calls ∧
        Sink.received calls =
          [1, 0, 0, 0, 0, 0, 0, 0, 8, 7, 6, 5, 4, 3, 2, 1] := by
  have unhindered : binarySample.Unhindered 2 drainedSample := by
    refine ⟨by decide, ?_, ⟨by decide, by decide⟩, by decide +kernel,
      by decide +kernel⟩
    rintro _ ⟨⟩
    decide
  obtain ⟨ended, _, _, ⟨calls, called, _, received⟩, _⟩ :=
    @drainage_watch binarySample 3 drainedSample _ rfl rfl unhindered
  exact ⟨rfl, rfl, unhindered, ended, calls, called, received rfl⟩

/-- A process that may have no descriptor at all drains nothing, though nothing
else is in its way. -/
theorem not_drained_foreignSample :
    let bytes : List UInt8 := [1, 2, 3, 4, 5, 6, 7, 8]
    let env := foreignSample bytes .nothing
    subscribedSample.watched? = some 3 ∧
      env.host.remainder? 3 = some bytes ∧
      (env.host.readiness 5).readable = false ∧
      env.sink.IsWilling ∧
      env.sink.duringFlush = [] ∧
      (env.host.tree.resolve subscribedSample.settings.cgroup).isOk = true ∧
      (subscribedSample.watch env).1 ≠
        .failed (.channelRead 3 (.short (bytes.length % size))) ∧
      (subscribedSample.watch env).1 =
        .failed (.channelRead 3 (.failed .invalidArgument)) ∧
      (subscribedSample.watch env).2.sink.calls = [] := by
  refine ⟨rfl, rfl, by decide, ⟨by decide, by decide⟩, rfl, by decide +kernel,
    by decide +kernel, by decide +kernel, by decide +kernel⟩

end Watcher

end MemoryWatch
