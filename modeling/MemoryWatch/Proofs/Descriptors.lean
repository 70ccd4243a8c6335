import MemoryWatch.Host.Basic
import Mathlib.Algebra.Order.Ring.Nat
import Mathlib.Data.List.Basic

/-!
# Descriptors and the files behind them

A descriptor stands for the position of an open file.  Reading and writing
change nothing but the file at that position; closing and making descriptors
change nothing but the table entry of that descriptor.  A new file takes a
position that no descriptor of a coherent host refers to, so that it is shared
with nobody.
-/

namespace MemoryWatch

/-- Where so many descriptors are too many, more of them are too. -/
theorem Allowance.bars_mono {allowance : Allowance} {count more : Nat}
    (fewer : count ≤ more) (barred : allowance.bars count = true) :
    allowance.bars more = true := by
  cases allowance <;> simp_all [bars] <;> omega

namespace Counter

/-- The lowest bytes of a number give the number back modulo their range. -/
theorem ofLittleEndian_littleEndian (width value : Nat) :
    ofLittleEndian (littleEndian width value) = value % 256 ^ width := by
  induction width generalizing value with
  | zero => rw [Nat.pow_zero, Nat.mod_one, littleEndian, ofLittleEndian]
  | succ width ih =>
      calc
        ofLittleEndian (littleEndian (width + 1) value) =
            value % 256 + 256 * (value / 256 % 256 ^ width) := by
          simp [littleEndian, ofLittleEndian, ih]
        _ = value % 256 ^ (width + 1) := by
          rw [Nat.pow_succ', Nat.mod_mul]

@[simp]
theorem ofBytes_toBytes (counter : UInt64) :
    ofBytes (toBytes counter) = counter := by
  have small : counter.toNat % 256 ^ size = counter.toNat :=
    Nat.mod_eq_of_lt (by simpa [size] using counter.toNat_lt)
  rw [ofBytes, toBytes, ofLittleEndian_littleEndian, small]
  exact UInt64.ofNat_toNat

end Counter

namespace Host

/-- Every descriptor refers to an open file. -/
def IsCoherent (host : Host) : Prop :=
  ∀ descriptor position, host.position? descriptor = some position →
    position < host.openFiles.length

theorem isCoherent_iff {host : Host} :
    host.IsCoherent ↔ ∀ entry ∈ host.table,
      entry.all (fun position => position < host.openFiles.length) = true := by
  constructor
  · intro coherent entry member
    obtain ⟨descriptor, found⟩ := List.getElem?_of_mem member
    cases entry with
    | none => rfl
    | some position =>
        have located : host.position? descriptor = some position := by
          rw [position?, found]
          rfl
        simpa using coherent descriptor position located
  · intro bounded descriptor position located
    rw [position?] at located
    cases found : host.table[descriptor]? with
    | none => simp [found] at located
    | some entry =>
        rw [found] at located
        have entryEq : entry = some position := located
        have bound := bounded entry (List.mem_of_getElem? found)
        simpa [entryEq] using bound

instance (host : Host) : Decidable host.IsCoherent :=
  decidable_of_iff' _ isCoherent_iff

/-- The sum that has not been read yet from the event counter behind a
descriptor, if there is such a counter. -/
def pending? (host : Host) (descriptor : Descriptor) : Option UInt64 :=
  (host.openFile? descriptor).bind fun file =>
    match file.content with
    | .counter pending => some pending
    | _ => none

theorem pending?_eq_some_iff {host : Host} {descriptor : Descriptor}
    {pending : UInt64} :
    host.pending? descriptor = some pending ↔
      ∃ impatient, host.openFile? descriptor =
        some ⟨.counter pending, impatient⟩ := by
  simp only [pending?, Option.bind_eq_some_iff]
  constructor
  · rintro ⟨⟨content, impatient⟩, file, counted⟩
    cases content with
    | counter sum =>
        cases counted
        exact ⟨impatient, file⟩
    | _ => cases counted
  · rintro ⟨impatient, file⟩
    exact ⟨_, file, rfl⟩

theorem openFile?_eq {host : Host} {descriptor : Descriptor} {position : Nat}
    (located : host.position? descriptor = some position) :
    host.openFile? descriptor = host.openFiles[position]? := by
  rw [openFile?, located, Option.bind_some]

theorem openFile?_congr {host : Host} {first second : Descriptor}
    (same : host.position? first = host.position? second) :
    host.openFile? first = host.openFile? second := by
  rw [openFile?, same, openFile?]

theorem position?_isSome_of_openFile? {host : Host} {descriptor : Descriptor}
    {file : OpenFile} (opened : host.openFile? descriptor = some file) :
    ∃ position, host.position? descriptor = some position := by
  obtain ⟨position, located, _⟩ := Option.bind_eq_some_iff.mp opened
  exact ⟨position, located⟩

/-! ## Reading and writing -/

/-- One host after another between which only the file behind one descriptor
was read or written. -/
structure Touches (descriptor : Descriptor) (before after : Host) : Prop where
  table : after.table = before.table
  length : after.openFiles.length = before.openFiles.length
  others : ∀ position, before.position? descriptor ≠ some position →
    after.openFiles[position]? = before.openFiles[position]?

namespace Touches

variable {descriptor : Descriptor} {before after : Host}

theorem refl (descriptor : Descriptor) (host : Host) :
    Touches descriptor host host :=
  ⟨rfl, rfl, fun _ _ => rfl⟩

theorem position? (touches : Touches descriptor before after)
    (other : Descriptor) : after.position? other = before.position? other := by
  rw [Host.position?, touches.table, Host.position?]

theorem openFile?_of_ne (touches : Touches descriptor before after)
    {other : Descriptor}
    (apart : before.position? descriptor ≠ before.position? other) :
    after.openFile? other = before.openFile? other := by
  rw [openFile?, openFile?, touches.position?]
  cases located : before.position? other with
  | none => rfl
  | some position =>
      exact touches.others position (by rwa [located] at apart)

theorem isCoherent (touches : Touches descriptor before after)
    (coherent : before.IsCoherent) : after.IsCoherent := by
  intro other position located
  rw [touches.position?] at located
  rw [touches.length]
  exact coherent other position located

end Touches

theorem touches_update (host : Host) (descriptor : Descriptor)
    (file : OpenFile) :
    Touches descriptor host (host.update descriptor file) := by
  rw [update]
  cases located : host.position? descriptor with
  | none => exact Touches.refl descriptor host
  | some position =>
      refine ⟨rfl, List.length_set, fun other different => ?_⟩
      exact List.getElem?_set_ne fun equal => different (by rw [located, equal])

theorem touches_read (host : Host) (descriptor : Descriptor) :
    Touches descriptor host (host.read descriptor).2 := by
  rw [read]
  rcases host.openFile? descriptor with _ | ⟨content, impatient⟩
  · exact Touches.refl descriptor host
  cases content with
  | counter pending =>
      dsimp only
      split
      · exact Touches.refl descriptor host
      · exact touches_update host descriptor _
  | stored unread => exact touches_update host descriptor _
  | pipe unread hasWriter =>
      dsimp only
      split
      · exact Touches.refl descriptor host
      · exact touches_update host descriptor _
  | directory | endpoint location => exact Touches.refl descriptor host
  | device device access =>
      cases device <;> cases access <;> exact Touches.refl descriptor host

theorem touches_write (host : Host) (descriptor : Descriptor)
    (bytes : List UInt8) :
    Touches descriptor host (host.write descriptor bytes).2 := by
  rw [write]
  rcases host.openFile? descriptor with _ | ⟨content, impatient⟩
  · exact Touches.refl descriptor host
  cases content with
  | counter pending =>
      dsimp only
      split
      · exact Touches.refl descriptor host
      · split
        · exact Touches.refl descriptor host
        · exact touches_update host descriptor _
  | endpoint location =>
      dsimp only
      split <;> exact ⟨rfl, rfl, fun _ _ => rfl⟩
  | stored unread | pipe unread hasWriter | directory =>
      exact Touches.refl descriptor host
  | device device access =>
      cases device <;> cases access <;> exact Touches.refl descriptor host

/-! ## What reading and writing leave alone -/

theorem update_eq (host : Host) (descriptor : Descriptor) (file : OpenFile) :
    ∃ openFiles, host.update descriptor file = { host with openFiles } := by
  rw [update]
  cases host.position? descriptor with
  | none => exact ⟨host.openFiles, rfl⟩
  | some position => exact ⟨_, rfl⟩

/-- A read changes nothing but open files. -/
theorem read_snd (host : Host) (descriptor : Descriptor) :
    ∃ openFiles, (host.read descriptor).2 = { host with openFiles } := by
  have unchanged : ∃ openFiles, host = { host with openFiles } :=
    ⟨host.openFiles, rfl⟩
  rw [read]
  rcases host.openFile? descriptor with _ | ⟨content, impatient⟩
  · exact unchanged
  cases content with
  | counter pending =>
      dsimp only
      split
      · exact unchanged
      · exact host.update_eq descriptor _
  | stored unread => exact host.update_eq descriptor _
  | pipe unread hasWriter =>
      dsimp only
      split
      · exact unchanged
      · exact host.update_eq descriptor _
  | directory | endpoint location => exact unchanged
  | device device access => cases device <;> cases access <;> exact unchanged

/-- A write changes open files, or puts bytes over the file that an endpoint
stands for. -/
theorem write_snd (host : Host) (descriptor : Descriptor)
    (bytes : List UInt8) :
    (∃ openFiles,
        (host.write descriptor bytes).2 = { host with openFiles }) ∨
      ∃ location taken impatient,
        host.openFile? descriptor = some ⟨.endpoint location, impatient⟩ ∧
        taken <+: bytes ∧
        (host.write descriptor bytes).1 = .done taken.length ∧
        (host.write descriptor bytes).2 =
          { host with tree := host.tree.overwrite location taken } := by
  have unchanged : ∃ openFiles, host = { host with openFiles } :=
    ⟨host.openFiles, rfl⟩
  rw [write]
  rcases host.openFile? descriptor with _ | ⟨content, impatient⟩
  · exact Or.inl unchanged
  cases content with
  | counter pending =>
      left
      dsimp only
      split
      · exact unchanged
      · split
        · exact unchanged
        · exact host.update_eq descriptor _
  | endpoint location =>
      dsimp only
      split
      · exact Or.inr ⟨location, bytes, impatient, rfl, List.prefix_rfl, rfl, rfl⟩
      · exact Or.inr ⟨location, _, impatient, rfl, List.take_prefix _ bytes,
          rfl, rfl⟩
      · exact Or.inl unchanged
  | stored unread | pipe unread hasWriter | directory => exact Or.inl unchanged
  | device device access =>
      cases device <;> cases access <;> exact Or.inl unchanged

theorem openFile?_update {host : Host} {descriptor : Descriptor}
    {old : OpenFile} (opened : host.openFile? descriptor = some old)
    (file : OpenFile) :
    (host.update descriptor file).openFile? descriptor = some file := by
  obtain ⟨position, located⟩ := position?_isSome_of_openFile? opened
  have within : position < host.openFiles.length := by
    rw [openFile?_eq located] at opened
    exact (List.getElem?_eq_some_iff.mp opened).1
  have stays := (touches_update host descriptor file).position? descriptor
  rw [openFile?_eq (stays.trans located), update, located]
  exact List.getElem?_set_self within

/-- A write leaves every open file as it is, except that it may add to a
counter. -/
theorem openFile?_write (host : Host) (descriptor other : Descriptor)
    (bytes : List UInt8) :
    (host.write descriptor bytes).2.openFile? other = host.openFile? other ∨
      ∃ pending sum impatient,
        host.openFile? other = some ⟨.counter pending, impatient⟩ ∧
        (host.write descriptor bytes).2.openFile? other =
          some ⟨.counter sum, impatient⟩ := by
  have touches := touches_write host descriptor bytes
  by_cases same : host.position? descriptor = host.position? other
  · have sameAfter : (host.write descriptor bytes).2.position? descriptor =
        (host.write descriptor bytes).2.position? other := by
      rw [touches.position?, touches.position?, same]
    rw [← openFile?_congr sameAfter, ← openFile?_congr same, write]
    rcases opened : host.openFile? descriptor with _ | ⟨content, impatient⟩
    · exact Or.inl opened
    cases content with
    | counter pending =>
        dsimp only
        split
        · exact Or.inl opened
        split
        · exact Or.inl opened
        · exact Or.inr ⟨pending, _, impatient, rfl, openFile?_update opened _⟩
    | endpoint location =>
        dsimp only
        split <;> exact Or.inl opened
    | stored unread | pipe unread hasWriter | directory => exact Or.inl opened
    | device device access =>
        cases device <;> cases access <;> exact Or.inl opened
  · exact Or.inl (touches.openFile?_of_ne same)

/-! ## Counters -/

theorem pending?_congr {host : Host} {first second : Descriptor}
    (same : host.position? first = host.position? second) :
    host.pending? first = host.pending? second := by
  rw [pending?, openFile?_congr same, pending?]

theorem Touches.pending?_of_ne {descriptor other : Descriptor}
    {before after : Host} (touches : Touches descriptor before after)
    (apart : before.position? descriptor ≠ before.position? other) :
    after.pending? other = before.pending? other := by
  rw [pending?, touches.openFile?_of_ne apart, pending?]

/-- Reading an empty counter gives nothing and leaves it as it is. -/
theorem read_of_pending_zero {host : Host} {descriptor : Descriptor}
    (empty : host.pending? descriptor = some 0) :
    (host.read descriptor).2 = host ∧
      ∀ bytes, (host.read descriptor).1 ≠ .done bytes := by
  obtain ⟨impatient, opened⟩ := pending?_eq_some_iff.mp empty
  rw [read, opened]
  cases impatient <;> simp

/-- Reading a counter that is not empty gives its sum and clears it. -/
theorem read_of_pending_ne_zero {host : Host} {descriptor : Descriptor}
    {pending : UInt64} (counted : host.pending? descriptor = some pending)
    (filled : pending ≠ 0) :
    (host.read descriptor).1 = .done (Counter.toBytes pending) ∧
      (host.read descriptor).2.pending? descriptor = some 0 := by
  obtain ⟨impatient, opened⟩ := pending?_eq_some_iff.mp counted
  have cleared := openFile?_update opened ⟨.counter 0, impatient⟩
  rw [read, opened]
  simp only [filled, if_false, true_and]
  exact pending?_eq_some_iff.mpr ⟨impatient, cleared⟩

/-- Adding to a counter either adds the whole count, or changes nothing
because the sum would be too large. -/
theorem write_toBytes_cases {host : Host} {descriptor : Descriptor}
    {pending : UInt64} (counted : host.pending? descriptor = some pending)
    (count : UInt64) :
    (pending.toNat + count.toNat ≤ Counter.largest ∧
        (host.write descriptor (Counter.toBytes count)).1 =
          .done Counter.size ∧
        (host.write descriptor (Counter.toBytes count)).2.pending?
          descriptor = some (pending + count)) ∨
      (Counter.largest < pending.toNat + count.toNat ∧
        (∀ written,
          (host.write descriptor (Counter.toBytes count)).1 ≠
            .done written) ∧
        (host.write descriptor (Counter.toBytes count)).2 = host) := by
  obtain ⟨impatient, opened⟩ := pending?_eq_some_iff.mp counted
  have whole : (Counter.toBytes count).take Counter.size =
      Counter.toBytes count :=
    List.take_of_length_le (by simp)
  rw [write, opened]
  simp only [whole, Counter.ofBytes_toBytes, Counter.toBytes_length,
    Nat.lt_irrefl, false_or]
  by_cases huge : Counter.largest < count.toNat
  · right
    rw [if_pos huge]
    exact ⟨by omega, by simp, rfl⟩
  by_cases full : Counter.largest < pending.toNat + count.toNat
  · right
    rw [if_neg huge, if_pos full]
    exact ⟨full, by cases impatient <;> simp, rfl⟩
  · left
    rw [if_neg huge, if_neg full]
    refine ⟨by omega, rfl, pending?_eq_some_iff.mpr ⟨impatient, ?_⟩⟩
    exact openFile?_update opened _

/-! ## Making and closing descriptors -/

theorem occupy_free (position : Nat) (table : List (Option Nat)) :
    (table[(occupy position table).1]?).join = none := by
  induction table with
  | nil => rfl
  | cons entry rest ih =>
      cases entry with
      | none => rfl
      | some other => simpa [occupy] using ih

/-- The number that is taken stands for the new position, and all others for
what they stood for before. -/
theorem occupy_lookup (position : Nat) (table : List (Option Nat))
    (descriptor : Descriptor) :
    ((occupy position table).2[descriptor]?).join =
      if descriptor = (occupy position table).1 then some position
      else (table[descriptor]?).join := by
  induction table generalizing descriptor with
  | nil => cases descriptor <;> simp [occupy]
  | cons entry rest ih =>
      cases entry with
      | none => cases descriptor <;> simp [occupy]
      | some other =>
          cases descriptor with
          | zero => simp [occupy]
          | succ descriptor => simpa [occupy] using ih descriptor

/-- The number that is taken is no larger than the number of entries in use. -/
theorem occupy_le_countP (position : Nat) (table : List (Option Nat)) :
    (occupy position table).1 ≤ table.countP Option.isSome := by
  induction table with
  | nil => exact Nat.le_refl 0
  | cons entry rest ih =>
      cases entry with
      | none => exact Nat.zero_le _
      | some other => simpa [occupy] using ih

theorem position?_attach (host : Host) (file : OpenFile)
    (descriptor : Descriptor) :
    (host.attach file).2.position? descriptor =
      if descriptor = (host.attach file).1 then
        some host.openFiles.length
      else host.position? descriptor :=
  occupy_lookup host.openFiles.length host.table descriptor

theorem position?_attach_free (host : Host) (file : OpenFile) :
    host.position? (host.attach file).1 = none :=
  occupy_free host.openFiles.length host.table

theorem openFiles_attach (host : Host) (file : OpenFile) :
    (host.attach file).2.openFiles = host.openFiles ++ [file] :=
  rfl

theorem isCoherent_attach {host : Host} (coherent : host.IsCoherent)
    (file : OpenFile) : (host.attach file).2.IsCoherent := by
  intro descriptor position located
  rw [openFiles_attach, List.length_append, List.length_singleton]
  rw [position?_attach] at located
  split at located
  · cases located
    omega
  · have := coherent descriptor position located
    omega

theorem openFile?_attach_self (host : Host) (file : OpenFile) :
    (host.attach file).2.openFile? (host.attach file).1 = some file := by
  have located := position?_attach host file (host.attach file).1
  rw [if_pos rfl] at located
  rw [openFile?_eq located, openFiles_attach]
  simp

/-- A descriptor stands for the same open file as before, and the file is as it
was. -/
structure Keeps (descriptor : Descriptor) (before after : Host) : Prop where
  position : after.position? descriptor = before.position? descriptor
  file : after.openFile? descriptor = before.openFile? descriptor

namespace Keeps

variable {descriptor : Descriptor} {before between after : Host}

theorem refl (descriptor : Descriptor) (host : Host) :
    Keeps descriptor host host :=
  ⟨rfl, rfl⟩

theorem trans (first : Keeps descriptor before between)
    (second : Keeps descriptor between after) :
    Keeps descriptor before after :=
  ⟨second.position.trans first.position, second.file.trans first.file⟩

theorem pending? (keeps : Keeps descriptor before after) :
    after.pending? descriptor = before.pending? descriptor := by
  rw [Host.pending?, keeps.file, Host.pending?]

end Keeps

theorem Touches.keeps {descriptor other : Descriptor} {before after : Host}
    (touches : Touches descriptor before after)
    (apart : before.position? descriptor ≠ before.position? other) :
    Keeps other before after :=
  ⟨touches.position? other, touches.openFile?_of_ne apart⟩

theorem countP_occupy (position : Nat) (table : List (Option Nat)) :
    (occupy position table).2.countP Option.isSome =
      table.countP Option.isSome + 1 := by
  induction table with
  | nil => rfl
  | cons entry rest ih =>
      cases entry with
      | none => simp [occupy]
      | some taken => simp [occupy, ih]

theorem openCount_attach (host : Host) (file : OpenFile) :
    (host.attach file).2.openCount = host.openCount + 1 :=
  countP_occupy host.openFiles.length host.table

/-- One host after another between which a descriptor was made for a new open
file. -/
structure Makes (descriptor : Descriptor) (before after : Host) : Prop where
  free : before.position? descriptor = none
  position : after.position? descriptor = some before.openFiles.length
  coherent : after.IsCoherent
  keeps : ∀ other position, before.position? other = some position →
    Keeps other before after
  count : after.openCount = before.openCount + 1

/-- A descriptor in use keeps its file when another one is made. -/
theorem makes_attach {host : Host} (coherent : host.IsCoherent)
    (file : OpenFile) :
    Makes (host.attach file).1 host (host.attach file).2 where
  free := position?_attach_free host file
  position := by rw [position?_attach, if_pos rfl]
  coherent := isCoherent_attach coherent file
  keeps := by
    intro other position located
    have different : other ≠ (host.attach file).1 := by
      intro equal
      rw [equal, position?_attach_free] at located
      cases located
    have kept : (host.attach file).2.position? other =
        host.position? other := by
      rw [position?_attach, if_neg different]
    refine ⟨kept, ?_⟩
    rw [openFile?_eq (kept.trans located), openFile?_eq located,
      openFiles_attach]
    exact List.getElem?_append_left (coherent other position located)
  count := openCount_attach host file

theorem position?_close (host : Host) (closed descriptor : Descriptor) :
    (host.close closed).position? descriptor =
      if descriptor = closed then none else host.position? descriptor := by
  simp only [position?, close, List.getElem?_set]
  by_cases equal : descriptor = closed
  · subst equal
    by_cases within : descriptor < host.table.length <;> simp [within]
  · simp [equal, Ne.symm equal]

theorem isCoherent_close {host : Host} (coherent : host.IsCoherent)
    (closed : Descriptor) : (host.close closed).IsCoherent := by
  intro descriptor position located
  rw [position?_close] at located
  split at located
  · cases located
  · exact coherent descriptor position located

theorem keeps_close (host : Host) {closed descriptor : Descriptor}
    (different : descriptor ≠ closed) :
    Keeps descriptor host (host.close closed) := by
  have kept : (host.close closed).position? descriptor =
      host.position? descriptor := by
    rw [position?_close, if_neg different]
  refine ⟨kept, ?_⟩
  rw [openFile?, kept]
  rfl

theorem position?_substitute {host : Host} {descriptor : Descriptor}
    {position : Nat} (located : host.position? descriptor = some position)
    (file : OpenFile) (other : Descriptor) :
    (host.substitute descriptor file).position? other =
      if other = descriptor then some host.openFiles.length
      else host.position? other := by
  have within : descriptor < host.table.length := by
    by_contra beyond
    rw [position?, List.getElem?_eq_none (Nat.le_of_not_lt beyond)] at located
    cases located
  simp only [position?, substitute, List.getElem?_set]
  by_cases equal : other = descriptor
  · simp [equal, within]
  · simp [equal, Ne.symm equal]

theorem isCoherent_substitute {host : Host} (coherent : host.IsCoherent)
    {descriptor : Descriptor} {position : Nat}
    (located : host.position? descriptor = some position) (file : OpenFile) :
    (host.substitute descriptor file).IsCoherent := by
  intro other place found
  rw [substitute, List.length_append, List.length_singleton]
  rw [position?_substitute located] at found
  split at found
  · cases found
    omega
  · have := coherent other place found
    omega

theorem keeps_substitute {host : Host} (coherent : host.IsCoherent)
    {descriptor other : Descriptor} {position place : Nat}
    (located : host.position? descriptor = some position)
    (found : host.position? other = some place)
    (different : other ≠ descriptor) (file : OpenFile) :
    Keeps other host (host.substitute descriptor file) := by
  have kept : (host.substitute descriptor file).position? other =
      host.position? other := by
    rw [position?_substitute located, if_neg different]
  refine ⟨kept, ?_⟩
  rw [openFile?_eq (kept.trans found), openFile?_eq found, substitute]
  exact List.getElem?_append_left (coherent other place found)

/-- A second descriptor for a file leaves all others alone. -/
theorem keeps_duplicate (host : Host) (source : Descriptor)
    {other : Descriptor} {position : Nat}
    (located : host.position? other = some position) :
    Keeps other host (host.duplicate source).2 := by
  rw [duplicate]
  split
  · exact Keeps.refl other host
  split
  · exact Keeps.refl other host
  split
  · next shared _ _ _ =>
      have different : other ≠ (occupy shared host.table).1 := by
        intro equal
        rw [position?, equal, occupy_free] at located
        cases located
      have kept := occupy_lookup shared host.table other
      rw [if_neg different] at kept
      refine ⟨kept, ?_⟩
      rw [openFile?, position?, kept]
      rfl
  · exact Keeps.refl other host

theorem isCoherent_duplicate {host : Host} (coherent : host.IsCoherent)
    (source : Descriptor) : (host.duplicate source).2.IsCoherent := by
  rw [duplicate]
  split
  · exact coherent
  split
  · exact coherent
  split
  · next shared found _ _ =>
      intro other position located
      rw [position?, occupy_lookup] at located
      split at located
      · cases located
        exact coherent source shared found
      · exact coherent other position located
  · exact coherent

/-- A second descriptor is made and stands for the same file, or nothing
happens. -/
theorem duplicate_cases (host : Host) (source : Descriptor) :
    (∃ cause, host.duplicate source = (.error cause, host)) ∨
      ∃ second table, host.duplicate source = (.ok second, { host with table }) ∧
        host.position? second = none ∧
        ({ host with table } : Host).openCount = host.openCount + 1 ∧
        ∀ descriptor, ({ host with table } : Host).position? descriptor =
          if descriptor = second then host.position? source
          else host.position? descriptor := by
  rw [duplicate]
  split
  · exact Or.inl ⟨_, rfl⟩
  split
  · exact Or.inl ⟨_, rfl⟩
  split
  · next shared found _ _ =>
      refine Or.inr ⟨_, _, rfl, occupy_free shared host.table,
        countP_occupy shared host.table, ?_⟩
      intro descriptor
      rw [found]
      exact occupy_lookup shared host.table descriptor
  · exact Or.inl ⟨_, rfl⟩

/-- A second descriptor is a new one, and it stands for the same file. -/
theorem duplicate_ok {host after : Host} {source second : Descriptor}
    (made : host.duplicate source = (.ok second, after)) :
    host.position? second = none ∧
      after.position? second = host.position? source := by
  obtain ⟨_, failed⟩ | ⟨_, _, duplicated, free, _, position⟩ :=
    host.duplicate_cases source
  · rw [failed] at made
    cases made
  · rw [duplicated] at made
    cases made
    exact ⟨free, by rw [position, if_pos rfl]⟩

/-- A descriptor that is made stands for a new open file. -/
theorem create_ok {host after : Host} {content : OpenContent}
    {descriptor : Descriptor}
    (made : host.create content = (.ok descriptor, after)) :
    host.attach { content } = (descriptor, after) := by
  rw [create] at made
  split at made
  · cases made
    rfl
  · cases made

/-- A process has no descriptor beyond its limit. -/
theorem lt_tableLimit_of_create {host after : Host} {content : OpenContent}
    {descriptor : Descriptor}
    (made : host.create content = (.ok descriptor, after)) :
    descriptor < tableLimit := by
  have attached := create_ok made
  rw [create] at made
  split at made
  · next room =>
      simp only [hasRoom, Bool.and_eq_true, decide_eq_true_eq] at room
      have taken := occupy_le_countP host.openFiles.length host.table
      have number : (occupy host.openFiles.length host.table).1 = descriptor :=
        congrArg Prod.fst attached
      rw [number] at taken
      exact lt_of_le_of_lt taken room.1
  · cases made

theorem create_error {host after : Host} {content : OpenContent}
    {cause : SystemError}
    (failed : host.create content = (.error cause, after)) : after = host := by
  rw [create] at failed
  split at failed
  · cases failed
  · cases failed
    rfl

/-- A path that is opened names a node, and the descriptor is for its content. -/
theorem openPath_ok {host after : Host} {path : Path} {access : Access}
    {descriptor : Descriptor}
    (opened : host.openPath path access = (.ok descriptor, after)) :
    ∃ visit content, host.tree.resolve path = .ok visit ∧
      contentOf visit.location access visit.node = .ok content ∧
      host.create content = (.ok descriptor, after) := by
  rw [openPath] at opened
  rw [FileTree.resolve]
  generalize FileTree.check path = admitted at opened ⊢
  rcases admitted with cause | _
  · cases opened
  dsimp only at opened ⊢
  split at opened
  · split at opened
    · cases opened
    · next visit located =>
        split at opened
        · cases opened
        · next content given =>
            exact ⟨visit, content, located, given, opened⟩
  · cases opened

theorem openPath_error {host after : Host} {path : Path} {access : Access}
    {cause : SystemError}
    (failed : host.openPath path access = (.error cause, after)) :
    after = host := by
  rw [openPath] at failed
  split at failed
  · cases failed
    rfl
  split at failed
  · split at failed
    · cases failed
      rfl
    split at failed
    · cases failed
      rfl
    · exact create_error failed
  · cases failed
    rfl

/-- A write reaches the same file through every descriptor that there is for
it. -/
theorem write_renumbered {host : Host} {table : List (Option Nat)}
    {second descriptor : Descriptor}
    (same : ({ host with table } : Host).position? second =
      host.position? descriptor) (bytes : List UInt8) :
    ({ host with table } : Host).write second bytes =
      ((host.write descriptor bytes).1,
        { (host.write descriptor bytes).2 with table }) := by
  have file : ({ host with table } : Host).openFile? second =
      host.openFile? descriptor := by
    rw [openFile?, openFile?, same]
  have updated (changed : OpenFile) :
      ({ host with table } : Host).update second changed =
        { host.update descriptor changed with table } := by
    rw [update, update, same]
    cases host.position? descriptor <;> rfl
  rw [write, write, file]
  rcases host.openFile? descriptor with _ | ⟨content, impatient⟩
  · rfl
  cases content with
  | counter pending =>
      dsimp only
      rw [updated]
      split
      · rfl
      split <;> rfl
  | endpoint location =>
      dsimp only
      split <;> rfl
  | stored unread | pipe unread hasWriter | directory => rfl
  | device device access => cases device <;> cases access <;> rfl

/-! ## Counting descriptors -/

/-- How many numbers are in use depends only on which are. -/
theorem countP_congr {table other : List (Option Nat)}
    (same : ∀ descriptor : Nat,
      ((other[descriptor]?).join).isSome = ((table[descriptor]?).join).isSome) :
    other.countP Option.isSome = table.countP Option.isSome := by
  induction table generalizing other with
  | nil =>
      rw [List.countP_nil, List.countP_eq_zero]
      intro entry member
      obtain ⟨descriptor, within, found⟩ := List.getElem_of_mem member
      have free := same descriptor
      rw [List.getElem?_eq_getElem within, found] at free
      simpa using free
  | cons entry rest ih =>
      have head := same 0
      cases other with
      | nil =>
          have tail := @ih [] fun descriptor => by
            simpa using same (descriptor + 1)
          cases entry with
          | none => simpa using tail
          | some position => simp at head
      | cons twin others =>
          have tail := @ih others fun descriptor => by
            simpa using same (descriptor + 1)
          cases entry <;> cases twin <;> simp_all

theorem openCount_of_position? {host other : Host}
    (same : ∀ descriptor,
      other.position? descriptor = host.position? descriptor) :
    other.openCount = host.openCount :=
  countP_congr fun descriptor => congrArg Option.isSome (same descriptor)

theorem openCount_close {host : Host} {descriptor : Descriptor}
    {position : Nat} (placed : host.position? descriptor = some position) :
    (host.close descriptor).openCount + 1 = host.openCount := by
  rw [position?, Option.join_eq_some_iff] at placed
  obtain ⟨within, entry⟩ := List.getElem?_eq_some_iff.mp placed
  have used : 0 < host.table.countP Option.isSome :=
    List.countP_pos_iff.mpr ⟨some position,
      List.mem_of_getElem? placed, rfl⟩
  have cleared := List.countP_set (p := Option.isSome) (a := none) within
  rw [entry] at cleared
  rw [openCount, close, openCount, cleared]
  simp only [Option.isSome_some, if_true, Option.isSome_none,
    Bool.false_eq_true, if_false]
  omega

theorem openCount_close_le (host : Host) (descriptor : Descriptor) :
    (host.close descriptor).openCount ≤ host.openCount := by
  by_cases within : descriptor < host.table.length
  · rw [openCount, close, openCount, List.countP_set within]
    simp
  · rw [close, List.set_eq_of_length_le (Nat.le_of_not_lt within)]

/-- Two descriptors are at least two. -/
theorem two_le_openCount {host : Host} {first second : Descriptor}
    {position other : Nat} (placed : host.position? first = some position)
    (also : host.position? second = some other) (apart : first ≠ second) :
    2 ≤ host.openCount := by
  have left : (host.close first).position? second = some other := by
    rw [position?_close, if_neg apart.symm]
    exact also
  have fewer := openCount_close placed
  have one := openCount_close left
  omega

end Host

end MemoryWatch
