import CertConsole.Proofs.LineConsole
import CertConsole.Proofs.Queue
import CertConsole.Proofs.ReplyLine

/-!
# What a line read consumes

One line read takes items from the front of the queue and nothing else. `FirstLine` says which: it
passes interruptions, collects bytes up to a line feed, and stops before one at silence, at an error
or where the queue ends. Every queue has a first line in this sense, and the line that is read from
an open device is that line, with all that stands behind it left in place (`reads_first_line`).
-/
namespace CertConsole

/-- The error of a signal that loses the line: no interruption, and more than silence. -/
def Signal.fatal? : Signal → Option ChannelError
  | .failure error => if error.kind = .fatal then some error else none
  | .endOfData => none

/-- An item that does not end a line: a byte other than a line feed, or an interruption. -/
def Item.Inner : Item → Prop
  | .byte value => value ≠ Port.lineFeed
  | .signal (.failure error) => error.kind = .interrupted
  | .signal .endOfData => False

/-- The bytes among items. -/
def Item.bytes (items : List Item) : List UInt8 := items.filterMap Item.byte?

/-- The byte of the first item, if it is one, and then the bytes of the others. -/
theorem Item.bytes_cons (item : Item) (items : List Item) :
    Item.bytes (item :: items) = item.byte?.toList ++ Item.bytes items := by
  unfold Item.bytes
  cases found : item.byte? with
  | none => exact List.filterMap_cons_none found
  | some value => exact List.filterMap_cons_some found

/-- The first line of a queue, or the error that loses it, and what stands behind it. Whatever ends
the line is passed, too. -/
inductive FirstLine (idle : Signal) :
    List Item → Except ChannelError (List UInt8) → List Item → Prop where
  /-- The line ends with the first line feed. -/
  | fed (front behind : List Item) (inner : ∀ item ∈ front, item.Inner) :
      FirstLine idle (front ++ .byte Port.lineFeed :: behind)
        (.ok (Item.bytes front ++ [Port.lineFeed])) behind
  /-- The line ends at silence, unfinished. -/
  | silenced (front behind : List Item) (inner : ∀ item ∈ front, item.Inner) {signal : Signal}
      (silent : signal.Silent) :
      FirstLine idle (front ++ .signal signal :: behind) (.ok (Item.bytes front)) behind
  /-- The line is lost at an error. -/
  | lost (front behind : List Item) (inner : ∀ item ∈ front, item.Inner) {signal : Signal}
      {error : ChannelError} (fatal : signal.fatal? = some error) :
      FirstLine idle (front ++ .signal signal :: behind) (.error error) behind
  /-- The queue ends before the line does, and waiting for more is not an error. -/
  | drained (front : List Item) (inner : ∀ item ∈ front, item.Inner) (quiet : idle.fatal? = none) :
      FirstLine idle front (.ok (Item.bytes front)) []
  /-- The queue ends before the line does, and waiting for more is an error. -/
  | broken (front : List Item) (inner : ∀ item ∈ front, item.Inner) {error : ChannelError}
      (fatal : idle.fatal? = some error) :
      FirstLine idle front (.error error) []

/-- A read that meets a fatal error loses the line. -/
theorem Signal.verdict_fatal {signal : Signal} {error : ChannelError}
    (fatal : signal.fatal? = some error) :
    Port.verdict (Device.readSignal signal) = .fails error := by
  cases signal with
  | endOfData => cases fatal
  | failure met =>
    by_cases kind : met.kind = .fatal
    · have same : met = error := by simpa [fatal?, kind] using fatal
      have loud : met.isSilence = false := by simp [ChannelError.isSilence, kind]
      rw [← same]
      simp [Device.readSignal, Port.verdict, kind, loud]
    · simp [fatal?, kind] at fatal

/-- A signal without a fatal error interrupts a read or is silence. -/
theorem Signal.interrupted_or_silent {signal : Signal} (quiet : signal.fatal? = none) :
    Item.Inner (.signal signal) ∨ signal.Silent := by
  cases signal with
  | endOfData => exact .inr trivial
  | failure error =>
    cases kind : error.kind with
    | interrupted => exact .inl kind
    | timedOut => exact .inr (by simp [Silent, ChannelError.isSilence, kind])
    | wouldBlock => exact .inr (by simp [Silent, ChannelError.isSilence, kind])
    | fatal => simp [fatal?, kind] at quiet

/-- Silence is no fatal error. -/
theorem Signal.Silent.not_fatal {signal : Signal} (silent : signal.Silent) :
    signal.fatal? = none := by
  cases signal with
  | endOfData => rfl
  | failure error =>
    have silence : error.isSilence = true := silent
    have harmless : error.kind ≠ .fatal := by
      intro kind
      rw [ChannelError.isSilence, kind] at silence
      cases silence
    exact if_neg harmless

/-- A line goes on behind an inner item with the byte that the item is. -/
theorem Item.Inner.verdict {item : Item} (inner : item.Inner) :
    Port.verdict item.found = .continues item.byte?.toList := by
  cases item with
  | byte value => exact if_neg inner
  | signal signal =>
    cases signal with
    | endOfData => cases inner
    | failure error => exact if_pos inner

namespace FirstLine

variable {idle : Signal} {queue behind : List Item} {line : Except ChannelError (List UInt8)}

/-- An inner item in front of a line belongs to it. -/
theorem cons {item : Item} (inner : item.Inner) (first : FirstLine idle queue line behind) :
    FirstLine idle (item :: queue) (line.map (item.byte?.toList ++ ·)) behind := by
  have longer {front : List Item} (within : ∀ item ∈ front, item.Inner) :
      ∀ other ∈ item :: front, other.Inner := List.forall_mem_cons.mpr ⟨inner, within⟩
  cases first with
  | fed front _ within =>
    have whole : FirstLine idle _ _ behind := fed (item :: front) behind (longer within)
    rwa [Item.bytes_cons, List.append_assoc] at whole
  | silenced front _ within silent =>
    have whole : FirstLine idle _ _ behind :=
      silenced (item :: front) behind (longer within) silent
    rwa [Item.bytes_cons] at whole
  | lost front _ within fatal => exact lost (item :: front) behind (longer within) fatal
  | drained _ within quiet =>
    have whole := drained (item :: queue) (longer within) quiet
    rwa [Item.bytes_cons] at whole
  | broken _ within fatal => exact broken (item :: queue) (longer within) fatal

end FirstLine

/-- Every queue has a first line. -/
theorem exists_firstLine (idle : Signal) (queue : List Item) :
    ∃ line behind, FirstLine idle queue line behind := by
  induction queue with
  | nil =>
    cases waiting : idle.fatal? with
    | none => exact ⟨_, _, .drained [] (List.forall_mem_nil _) waiting⟩
    | some error => exact ⟨_, _, .broken [] (List.forall_mem_nil _) waiting⟩
  | cons item queue ih =>
    obtain ⟨line, behind, first⟩ := ih
    have nothing : ∀ item ∈ ([] : List Item), item.Inner := List.forall_mem_nil _
    cases item with
    | byte value =>
      by_cases last : value = Port.lineFeed
      · rw [last]
        exact ⟨_, _, .fed [] queue nothing⟩
      · exact ⟨_, _, first.cons last⟩
    | signal signal =>
      cases met : signal.fatal? with
      | some error => exact ⟨_, _, .lost [] queue nothing met⟩
      | none =>
        rcases Signal.interrupted_or_silent met with interrupted | silent
        · exact ⟨_, _, first.cons interrupted⟩
        · exact ⟨_, _, .silenced [] queue nothing silent⟩

namespace Device

/-- Items that do not end a line are taken with what follows them. -/
theorem takeLine_inner (idle : Signal) {front : List Item} (inner : ∀ item ∈ front, item.Inner)
    (rest : List Item) :
    takeLine idle (front ++ rest) =
      ((takeLine idle rest).1.map (Item.bytes front ++ ·), (takeLine idle rest).2) := by
  induction front with
  | nil =>
    have unchanged : (takeLine idle rest).1.map ([] ++ ·) = (takeLine idle rest).1 := by
      cases (takeLine idle rest).1 <;> rfl
    rw [Item.bytes, List.filterMap_nil, unchanged]
    rfl
  | cons item front ih =>
    rw [List.forall_mem_cons] at inner
    rw [List.cons_append, takeLine, ih inner.2]
    simp only [inner.1.verdict]
    rw [Item.bytes_cons]
    cases (takeLine idle rest).1 with
    | error error => rfl
    | ok line => simp only [Except.map, List.append_assoc]

/-- The first line of a queue is what is taken from it. -/
theorem takeLine_first {idle : Signal} {queue behind : List Item}
    {line : Except ChannelError (List UInt8)} (first : FirstLine idle queue line behind) :
    takeLine idle queue = (line, behind) := by
  cases first with
  | fed front _ inner =>
    have last : takeLine idle (.byte Port.lineFeed :: behind) = (.ok [Port.lineFeed], behind) :=
      takeLine_line idle List.not_mem_nil behind
    rw [takeLine_inner idle inner, last]
    rfl
  | silenced front _ inner silent =>
    rw [takeLine_inner idle inner, takeLine]
    simp only [Item.found, silent.verdict_ends, Except.map, List.append_nil]
  | lost front _ inner fatal =>
    rw [takeLine_inner idle inner, takeLine]
    simp only [Item.found, Signal.verdict_fatal fatal]
    rfl
  | drained _ inner quiet =>
    have ended : takeLine idle [] = (.ok [], []) := by
      rw [takeLine]
      rcases Signal.interrupted_or_silent quiet with interrupted | silent
      · have goesOn : Port.verdict (readSignal idle) = .continues [] := interrupted.verdict
        simp only [goesOn]
      · simp only [silent.verdict_ends]
    have whole := takeLine_inner idle inner []
    rw [List.append_nil, ended] at whole
    rw [whole]
    simp only [Except.map, List.append_nil]
  | @broken _ inner error fatal =>
    have ended : takeLine idle [] = (.error error, []) := by
      rw [takeLine]
      simp only [Signal.verdict_fatal fatal]
    have whole := takeLine_inner idle inner []
    rw [List.append_nil, ended] at whole
    exact whole

variable {device : Device}

/-- From an open device with time the first line of its queue is read. -/
theorem readLine_first (opened : device.isClosed = false) (timely : device.timeout ≠ 0)
    {line : Except ChannelError (List UInt8)} {behind : List Item}
    (first : FirstLine device.idle device.queue line behind) :
    ∃ reads, Port.readLine device = (line.map Reply.decodeLine, device.left behind reads) := by
  obtain ⟨reads, read⟩ := readLine_open opened timely
  rw [takeLine_first first] at read
  exact ⟨reads, read⟩

/-- **A line read consumes exactly one line.** From an open device with time the line that is read
is the first one of its queue, which there always is: the line is decoded, or the error that loses
it is told, and what stands behind it is left as it was. A line that is read has no line feed, and
no blank at an end. -/
theorem reads_first_line (opened : device.isClosed = false) (timely : device.timeout ≠ 0) :
    (∃ line behind, FirstLine device.idle device.queue line behind) ∧
      ∀ line behind, FirstLine device.idle device.queue line behind →
        (∃ reads, Port.readLine device =
          (line.map Reply.decodeLine, device.left behind reads)) ∧
        ∀ text, line.map Reply.decodeLine = .ok text → Reply.Trimmed text := by
  refine ⟨exists_firstLine device.idle device.queue, ?_⟩
  intro line behind first
  obtain ⟨reads, read⟩ := readLine_first opened timely first
  refine ⟨⟨reads, read⟩, ?_⟩
  intro text found
  have told : (Port.readLine device).1 = .ok text := by
    rw [read]
    exact found
  exact Port.readLine_trimmed told

/-- A line with an interruption in it is cut off by silence, and what comes next is left. -/
theorem reads_first_line_gap :
    let interrupted : Item := .signal (.failure ⟨.interrupted, "again"⟩)
    let silence : Item := .signal (.failure ⟨.timedOut, "no data"⟩)
    let device : Device := { queue := [.byte 0x6F, interrupted, .byte 0x6B, silence, .byte 0x0A] }
    ∃ reads, Port.readLine device = (.ok "ok", device.left [.byte 0x0A] reads) := by
  intro interrupted silence device
  have inner : ∀ item ∈ [.byte 0x6F, interrupted, .byte 0x6B], item.Inner := by
    simp [Item.Inner, interrupted, Port.lineFeed]
  have first : FirstLine device.idle device.queue _ [.byte 0x0A] :=
    .silenced [.byte 0x6F, interrupted, .byte 0x6B] [.byte 0x0A] inner rfl
  exact ((@reads_first_line device rfl (by decide)).2 _ _ first).1

end Device

end CertConsole
