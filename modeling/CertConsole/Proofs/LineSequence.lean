import CertConsole.Proofs.FirstLine
import CertConsole.Proofs.Utf8Boundary

/-!
# Lines in sequence

Reading bytes line by line and decoding each line gives what cutting the decoded text at its line
feeds gives, because no line feed is part of an ill-formed chunk and nothing is open behind one
(`decodeLossy_splitOn`). So the line reads of a device with bytes in its queue find the pieces of
the text one after the other, and each leaves exactly the bytes behind its line feed
(`reads_pieces`).
-/
namespace CertConsole

open Port (lineFeed)

/-- A property of bytes that holds where there is no line feed, and in front of a first line feed if
it holds behind it. -/
@[elab_as_elim]
theorem lineInduction {motive : List UInt8 → Prop} (last : ∀ body, lineFeed ∉ body → motive body)
    (line : ∀ body rest, lineFeed ∉ body → motive rest → motive (body ++ lineFeed :: rest))
    (bytes : List UInt8) : motive bytes := by
  by_cases inside : lineFeed ∈ bytes
  · obtain ⟨body, rest, rfl, plain⟩ := List.eq_append_cons_of_mem inside
    exact line body rest plain (lineInduction last line rest)
  · exact last bytes inside
termination_by bytes.length

/-- Bytes without a line feed decode to a text without one. -/
theorem decodeLossy_plain {body : List UInt8} (plain : lineFeed ∉ body) :
    '\n' ∉ Utf8.decodeLossy body := by
  intro inside
  exact plain (Utf8.mem_of_mem_decodeLossy inside (by decide))

/-- A line feed is decoded wherever it stands, and so is what stands on either side of it. -/
theorem decodeLossy_feed (front back : List UInt8) :
    Utf8.decodeLossy (front ++ lineFeed :: back) =
      Utf8.decodeLossy front ++ '\n' :: Utf8.decodeLossy back :=
  Utf8.decodeLossy_around front '\n' back

/-- **Decoding and cutting at line feeds commute.** -/
theorem decodeLossy_splitOn (bytes : List UInt8) :
    (Utf8.decodeLossy bytes).splitOn '\n' = (bytes.splitOn lineFeed).map Utf8.decodeLossy := by
  induction bytes using lineInduction with
  | last body plain =>
    rw [List.splitOn_eq_singleton (decodeLossy_plain plain), List.splitOn_eq_singleton plain]
    rfl
  | line body rest plain ih =>
    rw [decodeLossy_feed, List.splitOn_append_cons_self_of_not_mem (decodeLossy_plain plain), ih,
      List.splitOn_append_cons_self_of_not_mem plain]
    rfl

/-- The bytes behind that many line feeds; none are if there are fewer line feeds. -/
def behindFeeds (count : Nat) (bytes : List UInt8) : List UInt8 :=
  [lineFeed].intercalate ((bytes.splitOn lineFeed).drop count)

/-- All bytes are behind no line feed. -/
theorem behindFeeds_zero (bytes : List UInt8) : behindFeeds 0 bytes = bytes :=
  List.intercalate_splitOn lineFeed

/-- Behind a first line feed one line feed less is to be passed. -/
theorem behindFeeds_succ {body : List UInt8} (plain : lineFeed ∉ body) (count : Nat)
    (rest : List UInt8) :
    behindFeeds (count + 1) (body ++ lineFeed :: rest) = behindFeeds count rest := by
  rw [behindFeeds, List.splitOn_append_cons_self_of_not_mem plain]
  rfl

/-- Nothing is behind a line feed where there is none. -/
theorem behindFeeds_plain {body : List UInt8} (plain : lineFeed ∉ body) (count : Nat) :
    behindFeeds (count + 1) body = [] := by
  rw [behindFeeds, List.splitOn_eq_singleton plain, List.drop_succ_cons, List.drop_nil,
    List.intercalate_nil]

/-- Nothing is behind line feeds where there are no bytes. -/
theorem behindFeeds_nil (count : Nat) : behindFeeds count [] = [] := by
  cases count with
  | zero => exact behindFeeds_zero []
  | succ count => exact behindFeeds_plain List.not_mem_nil count

/-- What is read of the bytes up to each line feed and behind the last one, and then of nothing. -/
def lineText (index : Nat) (bytes : List UInt8) : String :=
  ((bytes.splitOn lineFeed)[index]?.map Reply.decodeLine).getD ""

/-- The first line ends at the first line feed, and the others follow it. -/
theorem lineText_line {body : List UInt8} (plain : lineFeed ∉ body) (rest : List UInt8) :
    lineText 0 (body ++ lineFeed :: rest) = Reply.decodeLine body ∧
      ∀ index, lineText (index + 1) (body ++ lineFeed :: rest) = lineText index rest := by
  unfold lineText
  rw [List.splitOn_append_cons_self_of_not_mem plain]
  exact ⟨rfl, fun _ => rfl⟩

/-- Bytes without a line feed are one line, and nothing follows it. -/
theorem lineText_plain {body : List UInt8} (plain : lineFeed ∉ body) :
    lineText 0 body = Reply.decodeLine body ∧ ∀ index, lineText (index + 1) body = "" := by
  unfold lineText
  rw [List.splitOn_eq_singleton plain]
  exact ⟨rfl, fun _ => rfl⟩

/-- Where there are no bytes there is nothing to read. -/
theorem lineText_nil (index : Nat) : lineText index [] = "" := by
  obtain ⟨first, others⟩ := lineText_plain (List.not_mem_nil : lineFeed ∉ [])
  cases index with
  | zero => exact first
  | succ index => exact others index

/-- The lines of bytes are the trimmed pieces of their text. -/
theorem lineText_eq (index : Nat) (bytes : List UInt8) :
    lineText index bytes = (((Utf8.decodeLossy bytes).splitOn '\n')[index]?.map fun piece =>
      String.ofList (Text.trim piece)).getD "" := by
  rw [decodeLossy_splitOn, List.getElem?_map, Option.map_map]
  rfl

/-- Bytes other than line feeds do not end a line. -/
theorem Item.inner_of_plain {body : List UInt8} (plain : lineFeed ∉ body) :
    ∀ item ∈ body.map Item.byte, item.Inner := by
  intro item inside
  obtain ⟨value, member, rfl⟩ := List.mem_map.mp inside
  intro same
  exact plain (same ▸ member)

/-- The bytes of items that are bytes. -/
theorem Item.bytes_map (bytes : List UInt8) : Item.bytes (bytes.map Item.byte) = bytes := by
  induction bytes with
  | nil => rfl
  | cons byte bytes ih =>
    rw [List.map_cons, Item.bytes_cons, ih]
    rfl

namespace Device

section

variable {device : Device} (opened : device.isClosed = false) (timely : device.timeout ≠ 0)
include opened timely

/-- A line that waits with its line feed is read, and the bytes behind it go on waiting. -/
theorem readLine_line {body rest : List UInt8} (plain : lineFeed ∉ body)
    (waiting : device.queue = (body ++ lineFeed :: rest).map .byte) :
    ∃ reads, Port.readLine device =
      (.ok (Reply.decodeLine body), device.left (rest.map .byte) reads) := by
  have first : FirstLine device.idle device.queue (.ok (body ++ [lineFeed]))
      (rest.map .byte) := by
    have whole : FirstLine device.idle _ _ (rest.map .byte) :=
      .fed (body.map .byte) (rest.map .byte) (Item.inner_of_plain plain)
    rwa [Item.bytes_map, ← List.map_cons, ← List.map_append, ← waiting] at whole
  obtain ⟨reads, read⟩ := readLine_first opened timely first
  rw [Except.map, Reply.decodeLine_feed] at read
  exact ⟨reads, read⟩

/-- Bytes that wait without a line feed are read to the last one. -/
theorem readLine_last (silent : device.idle.Silent) {body : List UInt8} (plain : lineFeed ∉ body)
    (waiting : device.queue = body.map .byte) :
    ∃ reads, Port.readLine device = (.ok (Reply.decodeLine body), device.left [] reads) := by
  have first : FirstLine device.idle device.queue (.ok body) [] := by
    have whole := FirstLine.drained (body.map .byte) (Item.inner_of_plain plain) silent.not_fatal
    rwa [Item.bytes_map, ← waiting] at whole
  exact readLine_first opened timely first

end

/-- **Line reads find the pieces of the text one after the other.** Let bytes wait in an open device
with time whose empty queue is silence. What they decode to, cut at its line feeds, are the pieces
of the bytes, decoded. Each line read finds the next of them without the blanks at its ends, and the
empty line when there are no more; it leaves exactly the bytes behind the line feeds that were
passed, and changes nothing else. -/
theorem reads_pieces {device : Device} (opened : device.isClosed = false)
    (timely : device.timeout ≠ 0) (silent : device.idle.Silent) {bytes : List UInt8}
    (waiting : device.queue = bytes.map .byte) (count : Nat) :
    (Utf8.decodeLossy bytes).splitOn '\n' = (bytes.splitOn lineFeed).map Utf8.decodeLossy ∧
      Port.lineAt count device =
        .ok ((((Utf8.decodeLossy bytes).splitOn '\n')[count]?.map fun piece =>
          String.ofList (Text.trim piece)).getD "") ∧
      ∃ reads, Port.afterLines count device =
        device.left ((behindFeeds count bytes).map .byte) reads := by
  refine ⟨decodeLossy_splitOn bytes, ?_⟩
  rw [← lineText_eq]
  -- On the lines that were read before: the first read leaves a device with fewer of them to read.
  induction count generalizing device bytes with
  | zero =>
    rw [behindFeeds_zero, ← waiting]
    refine ⟨?_, device.readCount, rfl⟩
    rw [Port.lineAt_zero]
    by_cases inside : lineFeed ∈ bytes
    · obtain ⟨body, rest, rfl, plain⟩ := List.eq_append_cons_of_mem inside
      obtain ⟨reads, read⟩ := readLine_line opened timely plain waiting
      rw [read, (lineText_line plain rest).1]
    · obtain ⟨reads, read⟩ := readLine_last opened timely silent inside waiting
      rw [read, (lineText_plain inside).1]
  | succ count ih =>
    rw [Port.lineAt_succ, Port.afterLines_succ]
    by_cases inside : lineFeed ∈ bytes
    · obtain ⟨body, rest, rfl, plain⟩ := List.eq_append_cons_of_mem inside
      obtain ⟨reads, read⟩ := readLine_line opened timely plain waiting
      rw [read, (lineText_line plain rest).2, behindFeeds_succ plain]
      exact @ih (device.left (rest.map .byte) reads) opened timely silent rest rfl
    · obtain ⟨reads, read⟩ := readLine_last opened timely silent inside waiting
      have nothing := @ih (device.left [] reads) opened timely silent [] rfl
      rw [lineText_nil, behindFeeds_nil] at nothing
      rw [read, (lineText_plain inside).2, behindFeeds_plain inside]
      exact nothing

/-- A sequence that a line feed breaks off does not go on behind it. -/
theorem reads_pieces_broken :
    let bytes : List UInt8 := [0x6F, 0xE2, 0x82, 0x0A, 0xAC, 0x6B]
    let device : Device := { queue := bytes.map .byte }
    device.isClosed = false ∧ device.timeout ≠ 0 ∧ device.idle.Silent ∧
      Port.lineAt 1 device = .ok "k" ∧
      ∃ reads, Port.afterLines 1 device = device.left (List.map .byte [0xAC, 0x6B]) reads := by
  intro bytes device
  obtain ⟨-, line, left⟩ := @reads_pieces device rfl (by decide) rfl bytes rfl 1
  exact ⟨rfl, by decide, rfl, line, left⟩

end Device

end CertConsole
