import MemoryWatch.Proofs.Encoding
import MemoryWatch.Proofs.Json
import MemoryWatch.Proofs.Output

/-!
# Reading a stream of records

A stream of records is cut into frames without any knowledge of what the
records say: a line ends with its line feed, and a binary record has a fixed
size.  Each frame is then read by itself.

A record is a frame, and no beginning of a record is one.  So a stream of
records is read back as the counters that were written, also when it breaks off
inside a record: that record is not read, and its beginning is left over.
-/

namespace MemoryWatch

/-- What a record tells its reader. -/
structure Report where
  cgroup : Option (List Char)
  counter : UInt64
  deriving DecidableEq, Repr

namespace Report

/-- Read a line of text. -/
def ofText? : List Char → Option Report
  | 'o' :: 'o' :: 'm' :: ' ' :: rest =>
    if rest.getLast? = some '\n' then
      (Decimal.numeral? rest.dropLast).map fun counter =>
        { cgroup := none, counter }
    else none
  | _ => none

/-- Read the members of a JSON object. -/
def ofMembers? (members : List (List Char × Json.Value)) : Option Report :=
  match members.lookup "event".toList, members.lookup "cgroup".toList,
    members.lookup "counter".toList with
  | some (.text event), some (.text cgroup), some (.number counter) =>
    if event = "oom".toList then some { cgroup := some cgroup, counter }
    else none
  | _, _, _ => none

end Report

namespace RecordFormat

/-- Whether some bytes are a whole frame. -/
def isWhole (format : RecordFormat) (bytes : List UInt8) : Bool :=
  match format with
  | .text | .json => bytes.getLast? == some 0x0A
  | .binary => bytes.length == Counter.size

/-- Cut the remaining bytes into frames when some bytes of the first one were
gathered already.  The bytes of a frame that is not whole at the end are left
over. -/
def framesFrom (format : RecordFormat) :
    List UInt8 → List UInt8 → List (List UInt8) × List UInt8
  | gathered, [] => ([], gathered)
  | gathered, byte :: rest =>
    if format.isWhole (gathered ++ [byte]) then
      let (frames, cut) := framesFrom format [] rest
      ((gathered ++ [byte]) :: frames, cut)
    else framesFrom format (gathered ++ [byte]) rest

/-- Read one frame. -/
def report? (format : RecordFormat) (frame : List UInt8) : Option Report :=
  match format with
  | .text => (Utf8.decode? frame).bind Report.ofText?
  | .json =>
    ((Utf8.decode? frame).bind Json.object?).bind Report.ofMembers?
  | .binary =>
    if frame.length = Counter.size then
      some { cgroup := none, counter := Counter.ofBytes frame }
    else none

/-- Read a stream: a report for each frame, if it has one, and what is left
over. -/
def read (format : RecordFormat) (stream : List UInt8) :
    List (Option Report) × List UInt8 :=
  let (frames, cut) := format.framesFrom [] stream
  (frames.map format.report?, cut)

/-- What the record of a counter should tell. -/
def report (format : RecordFormat) (cgroup : Path) (counter : UInt64) :
    Report where
  cgroup :=
    match format with
    | .json => some (Utf8.decodeLossy cgroup.bytes)
    | .text | .binary => none
  counter := counter

/-- Some bytes are a frame, and no beginning of them is one. -/
structure IsFrame (format : RecordFormat) (frame : List UInt8) : Prop where
  whole : format.isWhole frame = true
  first : ∀ beginning, beginning <+: frame → beginning ≠ frame →
    format.isWhole beginning = false

variable {format : RecordFormat} {frame : List UInt8}

/-- A frame is cut off at its end. -/
theorem framesFrom_frame (gathered : List UInt8) {pending : List UInt8}
    (rest : List UInt8)
    (isFrame : format.IsFrame (gathered ++ pending)) (more : pending ≠ []) :
    format.framesFrom gathered (pending ++ rest) =
      ((gathered ++ pending) :: (format.framesFrom [] rest).1,
        (format.framesFrom [] rest).2) := by
  induction pending generalizing gathered with
  | nil => exact absurd rfl more
  | cons byte others ih =>
      have shown : gathered ++ byte :: others = gathered ++ [byte] ++ others :=
        by simp
      rw [shown] at isFrame ⊢
      rw [List.cons_append, framesFrom]
      cases others with
      | nil =>
          rw [List.append_nil] at isFrame ⊢
          rw [if_pos isFrame.whole]
          rfl
      | cons second others =>
          have begun := isFrame.first (gathered ++ [byte])
            (List.prefix_append _ _) (by simp)
          rw [if_neg (by simp [begun]), ih _ isFrame (by simp)]

/-- What breaks off before its first frame is left over. -/
theorem framesFrom_cut (gathered : List UInt8) {pending : List UInt8}
    (unfinished : ∀ beginning, beginning <+: gathered ++ pending →
      format.isWhole beginning = false) :
    format.framesFrom gathered pending = ([], gathered ++ pending) := by
  induction pending generalizing gathered with
  | nil => simp [framesFrom]
  | cons byte others ih =>
      have shown : gathered ++ byte :: others = gathered ++ [byte] ++ others :=
        by simp
      rw [shown] at unfinished ⊢
      have begun := unfinished (gathered ++ [byte]) (List.prefix_append _ _)
      rw [framesFrom, if_neg (by simp [begun]), ih _ unfinished]

theorem IsFrame.ne_nil (isFrame : format.IsFrame frame) : frame ≠ [] := by
  rintro rfl
  have whole := isFrame.whole
  cases format <;> cases whole

/-- A line that holds no other line feed is a frame. -/
theorem isFrame_line {line : List UInt8} (unbroken : 0x0A ∉ line)
    (lines : format ≠ .binary) : format.IsFrame (line ++ [0x0A]) := by
  have meaning (bytes : List UInt8) :
      format.isWhole bytes = (bytes.getLast? == some 0x0A) := by
    cases format with
    | text | json => rfl
    | binary => exact absurd rfl lines
  refine ⟨by simp [meaning], ?_⟩
  intro beginning begins apart
  obtain same | inside := List.prefix_concat_iff.mp begins
  · exact absurd same apart
  · rw [meaning, beq_eq_false_iff_ne]
    intro last
    exact unbroken (inside.mem (List.mem_of_getLast? last))

/-- So many bytes are a binary frame. -/
theorem isFrame_binary (size : frame.length = Counter.size) :
    RecordFormat.binary.IsFrame frame := by
  refine ⟨by simp [isWhole, size], ?_⟩
  intro beginning begins apart
  rw [isWhole, beq_eq_false_iff_ne]
  intro full
  exact apart (begins.eq_of_length (full.trans size.symm))

end RecordFormat

namespace Record

/-- The quoting of a text leaves no line feed in it. -/
theorem lineFeed_not_mem_escape (character : Char) :
    '\n' ∉ escape character := by
  rw [escape]
  split_ifs with quote backslash backspace feed line carriage tab control
  iterate 7 decide
  · have high : Nat.digitChar (character.toNat / 16 % 16) ≠ '\n' :=
      Nat.digitChar_ne _ (by decide)
    have low : Nat.digitChar (character.toNat % 16) ≠ '\n' :=
      Nat.digitChar_ne _ (by decide)
    simp [Hexadecimal.pair, high.symm, low.symm]
  · simp [Ne.symm line]

theorem lineFeed_not_mem_quote (text : List Char) : '\n' ∉ quote text := by
  simp [quote, lineFeed_not_mem_escape]

theorem lineFeed_not_mem_decimal (counter : UInt64) :
    '\n' ∉ decimal counter := by
  intro member
  have digit := Nat.isDigit_of_mem_toDigits (by decide) (by decide) member
  exact absurd digit (by decide)

/-- A record that is no binary one is a line. -/
theorem encode_eq_line {format : RecordFormat} (lines : format ≠ .binary)
    (cgroup : Path) (counter : UInt64) :
    ∃ line, encode format cgroup counter = line ++ [0x0A] ∧
      0x0A ∉ line := by
  have encoded {text : List Char} (unbroken : '\n' ∉ text) :
      ∃ line, Utf8.encode (text ++ ['\n']) = line ++ [0x0A] ∧ 0x0A ∉ line :=
    ⟨Utf8.encode text, by rw [Utf8.encode_append]; rfl, fun member =>
      unbroken (Utf8.lineFeed_mem_encode.mp member)⟩
  cases format with
  | text =>
      refine encoded (List.not_mem_append ?_ (lineFeed_not_mem_decimal counter))
      decide
  | json =>
      have shown : encode .json cgroup counter = Utf8.encode
          ("\x7b\"event\":\"oom\",\"cgroup\":".toList ++
            quote (Utf8.decodeLossy cgroup.bytes) ++
            ",\"counter\":".toList ++ decimal counter ++ ['\x7d'] ++ ['\n']) :=
        congrArg Utf8.encode (List.append_assoc _ ['\x7d'] ['\n']).symm
      rw [shown]
      refine encoded (List.not_mem_append (List.not_mem_append
        (List.not_mem_append (List.not_mem_append ?_
          (lineFeed_not_mem_quote _)) ?_) (lineFeed_not_mem_decimal counter)) ?_)
      all_goals decide +kernel
  | binary => exact absurd rfl lines

/-- A record is a frame of its format. -/
theorem isFrame_encode (format : RecordFormat) (cgroup : Path)
    (counter : UInt64) : format.IsFrame (encode format cgroup counter) := by
  by_cases binary : format = .binary
  · subst binary
    exact RecordFormat.isFrame_binary (Counter.toBytes_length counter)
  · obtain ⟨line, shown, unbroken⟩ := encode_eq_line binary cgroup counter
    rw [shown]
    exact RecordFormat.isFrame_line unbroken binary

theorem ofText?_textLine (counter : UInt64) :
    Report.ofText? (textLine counter) = some { cgroup := none, counter } := by
  have shown : textLine counter =
      'o' :: 'o' :: 'm' :: ' ' :: (decimal counter ++ ['\n']) := rfl
  rw [shown, Report.ofText?]
  simp [Decimal.numeral?_decimal]

theorem ofMembers?_members (cgroup : List Char) (counter : UInt64) :
    Report.ofMembers? [("event".toList, .text "oom".toList),
        ("cgroup".toList, .text cgroup),
        ("counter".toList, .number counter)] =
      some { cgroup := some cgroup, counter } := by
  rfl

/-- A record is read as what it tells. -/
theorem report?_encode (format : RecordFormat) (cgroup : Path)
    (counter : UInt64) :
    format.report? (encode format cgroup counter) =
      some (format.report cgroup counter) := by
  cases format with
  | text =>
      rw [RecordFormat.report?, encode, Utf8.decode?_encode]
      exact ofText?_textLine counter
  | json =>
      rw [RecordFormat.report?, encode, Utf8.decode?_encode]
      dsimp only [Option.bind_some]
      rw [Json.object?_jsonLine]
      exact ofMembers?_members _ counter
  | binary =>
      rw [RecordFormat.report?, encode, if_pos (Counter.toBytes_length counter),
        Counter.ofBytes_toBytes]
      rfl

end Record

namespace RecordFormat

/-- Records in a stream are cut off one by one. -/
theorem framesFrom_records (format : RecordFormat) (cgroup : Path)
    (counters : List UInt64) (rest : List UInt8) :
    format.framesFrom []
        (counters.flatMap (Record.encode format cgroup) ++ rest) =
      (counters.map (Record.encode format cgroup) ++
          (format.framesFrom [] rest).1,
        (format.framesFrom [] rest).2) := by
  induction counters with
  | nil => rfl
  | cons counter others ih =>
      have isFrame := Record.isFrame_encode format cgroup counter
      have first := framesFrom_frame []
        (others.flatMap (Record.encode format cgroup) ++ rest) isFrame
        isFrame.ne_nil
      rw [List.flatMap_cons, List.append_assoc]
      refine first.trans ?_
      rw [ih]
      rfl

/-- Records are read as what they tell, and what breaks off before the end of
the next one is left over. -/
theorem read_cut {cgroup : Path} {next : UInt64} {cut : List UInt8}
    (counters : List UInt64)
    (begins : cut <+: Record.encode format cgroup next)
    (unfinished : cut ≠ Record.encode format cgroup next) :
    format.read (counters.flatMap (Record.encode format cgroup) ++ cut) =
      (counters.map fun counter => some (format.report cgroup counter),
        cut) := by
  have isFrame := Record.isFrame_encode format cgroup next
  have left : format.framesFrom [] cut = ([], cut) := by
    refine framesFrom_cut [] fun beginning within => ?_
    refine isFrame.first beginning (within.trans begins) ?_
    rintro rfl
    exact unfinished (begins.eq_of_length_le within.length_le)
  rw [read, framesFrom_records, left]
  simp [Record.report?_encode]

/-- Records alone are read as what they tell. -/
theorem read_whole (format : RecordFormat) (cgroup : Path)
    (counters : List UInt64) :
    format.read (counters.flatMap (Record.encode format cgroup)) =
      (counters.map fun counter => some (format.report cgroup counter),
        []) := by
  have nonempty := (Record.isFrame_encode format cgroup 0).ne_nil
  have read := read_cut counters List.nil_prefix nonempty.symm
  rwa [List.append_nil] at read

end RecordFormat

namespace Watcher

variable {watcher : Watcher}

/-- What a sink has received in a watch is read back as the counters that the
watch has read, but for the last one if the sink has failed. -/
theorem Tells.read {counters : List UInt64} {calls : List SinkCall}
    {answer : Answer WatchError Summary}
    (tells : watcher.Tells counters calls answer) :
    ∃ told cut,
      watcher.settings.format.read (Sink.received calls) =
        (told.map fun counter => some
          (watcher.settings.format.report watcher.settings.cgroup counter),
          cut) ∧
      (told = counters ∨
        (∃ cause, answer = .failed (.sink cause)) ∧
          ∃ last, counters = told ++ [last]) := by
  have whole (received : List UInt8)
      (all : received = counters.flatMap watcher.record) :
      watcher.settings.format.read received =
        (counters.map fun counter => some
          (watcher.settings.format.report watcher.settings.cgroup counter),
          []) := by
    rw [all]
    exact RecordFormat.read_whole _ _ counters
  cases answer with
  | done summary => exact ⟨_, _, whole _ tells.2.1, Or.inl rfl⟩
  | blocked => exact ⟨_, _, whole _ tells.2, Or.inl rfl⟩
  | failed error =>
      cases error with
      | channelRead descriptor reason =>
          exact ⟨_, _, whole _ tells.2, Or.inl rfl⟩
      | sink cause =>
          obtain ⟨earlier, last, cut, shown, begins, received⟩ := tells
          by_cases finished : cut = watcher.record last
          · refine ⟨_, _, whole _ ?_, Or.inl rfl⟩
            rw [received, finished, shown]
            simp
          · rw [received]
            exact ⟨_, _, RecordFormat.read_cut earlier begins finished,
              Or.inr ⟨⟨cause, rfl⟩, last, shown⟩⟩
      | _ => cases tells

/-- The output of a watch can be read back whatever its sink has done. -/
theorem read_output {env : Environment} {channel : Descriptor}
    (honest : Sink.IsHonest env.sink.writes)
    (watched : watcher.watched? = some channel) :
    ∃ counters calls told cut,
      (watcher.watch env).2.counters = env.counters ++ counters ∧
      (watcher.watch env).2.sink.calls = env.sink.calls ++ calls ∧
      watcher.settings.format.read (Sink.received calls) =
        (told.map fun counter => some
          (watcher.settings.format.report watcher.settings.cgroup counter),
          cut) ∧
      (told = counters ∨ ∃ last, counters = told ++ [last]) := by
  obtain ⟨counters, calls, counted, called, tells⟩ :=
    (output_of_watched? honest watched).tells
  obtain ⟨told, cut, read, all | ⟨_, missing⟩⟩ := tells.read
  · exact ⟨counters, calls, told, cut, counted, called, read, Or.inl all⟩
  · exact ⟨counters, calls, told, cut, counted, called, read, Or.inr missing⟩

end Watcher

namespace RecordFormat

/-- A stream of records that breaks off inside one more record is read as what
the whole records tell, in their order, and the beginning of the last one is
left over.  A record that is a line ends with its only line feed. -/
theorem read_records (format : RecordFormat) (cgroup : Path)
    (counters : List UInt64) (next : UInt64) (cut : List UInt8)
    (begins : cut <+: Record.encode format cgroup next)
    (unfinished : cut ≠ Record.encode format cgroup next) :
    format.read (counters.flatMap (Record.encode format cgroup) ++ cut) =
        (counters.map fun counter => some (format.report cgroup counter),
          cut) ∧
      (format ≠ .binary → ∀ counter,
        ∃ line, Record.encode format cgroup counter = line ++ [0x0A] ∧
          0x0A ∉ line) :=
  ⟨read_cut counters begins unfinished,
    fun lines => Record.encode_eq_line lines cgroup⟩

/-- A cgroup whose name holds a quote, a line feed, a backslash, a control
character and a byte that belongs to no text. -/
def hostileSample : Path :=
  ⟨[0x2F, 0x22, 0x0A, 0x5C, 0x01, 0xFF]⟩

/-- The smallest and the largest counter are read, and the record that breaks
off inside the name is not. -/
theorem read_records_hostileSample :
    (Record.encode .json hostileSample 7).take 30 <+:
        Record.encode .json hostileSample 7 ∧
      (Record.encode .json hostileSample 7).take 30 ≠
        Record.encode .json hostileSample 7 ∧
      RecordFormat.json.read
          ([0, 0xFFFFFFFFFFFFFFFF].flatMap
              (Record.encode .json hostileSample) ++
            (Record.encode .json hostileSample 7).take 30) =
        ([some ⟨some ['/', '"', '\n', '\\', '\x01', Utf8.replacement], 0⟩,
            some ⟨some ['/', '"', '\n', '\\', '\x01', Utf8.replacement],
              0xFFFFFFFFFFFFFFFF⟩],
          (Record.encode .json hostileSample 7).take 30) := by
  have begins := List.take_prefix 30 (Record.encode .json hostileSample 7)
  have unfinished : (Record.encode .json hostileSample 7).take 30 ≠
      Record.encode .json hostileSample 7 := by
    decide +kernel
  have read := (read_records .json hostileSample [0, 0xFFFFFFFFFFFFFFFF] 7 _
    begins unfinished).1
  refine ⟨begins, unfinished, read.trans ?_⟩
  decide +kernel

end RecordFormat

end MemoryWatch
