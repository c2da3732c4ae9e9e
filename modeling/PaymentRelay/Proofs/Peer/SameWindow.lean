import PaymentRelay.Peer.Client
import PaymentRelay.Proofs.Http.Heads
import PaymentRelay.Proofs.Text.Forms
import PaymentRelay.Proofs.Time.Stamps

/-!
# The window that the sibling reads

The sibling is asked for a window by its ends in whole milliseconds. It finds a request for its own
summary there, with a query that names both ends, so neither its clock nor its lookback matters. It
reads both ends and so adds up the same milliseconds, unless an end falls in a year that four digits
cannot say. The public can name such an end, with an offset at the edge of the calendar; it is
written with a sign, and the sibling refuses the request.
-/

namespace PaymentRelay

namespace Window

/-- Both ends are instants that exist. -/
def Valid (w : Window) : Prop := w.start.Valid ∧ w.stop.Valid

instance : DecidablePred Valid := fun _ ↦ inferInstanceAs (Decidable (_ ∧ _))

/-- The ends that were named are instants that exist. -/
def Ends.Valid (ends : Ends) : Prop := (∀ t ∈ ends.start, t.Valid) ∧ ∀ t ∈ ends.stop, t.Valid

theorem Ends.Valid.set {ends : Ends} {t : Instant} (valid : ends.Valid) (here : t.Valid)
    (side : Side) : (ends.set t side).Valid := by
  cases side with
  | start => exact ⟨by simpa [Ends.set] using here, valid.2⟩
  | stop => exact ⟨valid.1, by simpa [Ends.set] using here⟩

theorem valid_endsFrom {ends found : Ends} {ps : List (String × String)} (valid : ends.Valid)
    (h : endsFrom ends ps = .ok found) : found.Valid := by
  induction ps generalizing ends with
  | nil =>
    cases h
    exact valid
  | cons p ps ih =>
    rw [endsFrom] at h
    split at h
    · exact ih valid h
    · next side named =>
      split at h
      · next t read => exact ih (valid.set (Rfc3339.valid_of_read read) side) h
      · cases h

/-- **A window that is accepted** has ends that exist. -/
theorem valid_ofQuery {query : Option String} {scope : Scope} {now : Instant} {w : Window}
    (clock : now.Valid) (accepted : ofQuery query scope now = .ok w) : w.Valid := by
  rw [ofQuery] at accepted
  cases found : endsFrom {} (Form.pairs (utf8 (query.getD ""))) with
  | error fault =>
    rw [found] at accepted
    cases accepted
  | ok ends =>
    rw [found] at accepted
    cases accepted
    obtain ⟨start, stop⟩ := valid_endsFrom ⟨by simp, by simp⟩ found
    constructor
    · cases named : ends.start with
      | none => simpa [named] using Instant.valid_before clock _
      | some t => simpa [named] using start t named
    · cases named : ends.stop with
      | none => simpa [named] using clock
      | some t => simpa [named] using stop t named

end Window

namespace Peer

/-- What the sibling's query names. -/
def ends (w : Window) : List (String × String) :=
  [(Window.Side.start.name, (Rfc3339.writeMillis w.start).toText),
    (Window.Side.stop.name, (Rfc3339.writeMillis w.stop).toText)]

def query (w : Window) : String :=
  (Form.write ((ends w).map fun p ↦ (utf8 p.1, utf8 p.2))).toText

theorem utf8_query (w : Window) :
    utf8 (query w) = Form.write ((ends w).map fun p ↦ (utf8 p.1, utf8 p.2)) :=
  Bytes.IsAscii.utf8_toText fun _ there ↦ (Form.mem_write there).2

theorem target_eq (w : Window) : target w = utf8 (Route.lockPath ++ "?" ++ query w) := by
  have start := (Rfc3339.isAscii_writeMillis w.start).utf8_toText
  have stop := (Rfc3339.isAscii_writeMillis w.stop).utf8_toText
  have mark : utf8 "?" = [0x3F] := by decide +kernel
  simp [target, utf8_append, utf8_query, ends, start, stop, mark]

theorem splitTarget_append {path : String} (query : String) (plain : '?' ∉ path.toList) :
    splitTarget (path ++ "?" ++ query) = (path, some query) := by
  have noMark : ∀ c ∈ path.toList, decide (c ≠ '?') = true :=
    fun c there ↦ decide_eq_true fun mark ↦ plain (mark ▸ there)
  have chars : (path ++ "?" ++ query).toList = path.toList ++ '?' :: query.toList := by simp
  rw [splitTarget, chars, List.takeWhile_append_of_pos noMark,
    List.dropWhile_append_of_pos noMark]
  simp

/-- **The sibling finds a request for its own summary**, with the query that names both ends. -/
theorem read?_request (w : Window) : ∃ i head, Header.blockEnd? (request w) = some i ∧
    RequestHead.read? ((request w).take i) = some head ∧ utf8 head.target = target w ∧
    Route.ofHead head = .summary .lock (some (query w)) := by
  have printable : ∀ b ∈ target w, 0x20 < b ∧ b < 0x80 := by
    have path : ∀ b ∈ utf8 (Route.lockPath ++ "?"), 0x20 < b ∧ b < 0x80 := by decide +kernel
    intro b there
    rw [target_eq, utf8_append, List.mem_append, utf8_query] at there
    exact there.elim (path b) Form.mem_write
  have ascii : (target w).IsAscii := fun b there ↦ (printable b there).2
  have spelled : (target w).toText = Route.lockPath ++ "?" ++ query w :=
    utf8_injective (by rw [ascii.utf8_toText, target_eq])
  have line : Header.IsLine (target w) :=
    ⟨fun h ↦ absurd (printable _ h).1 (by decide), fun h ↦ absurd (printable _ h).1 (by decide)⟩
  have noSpace : Octet.space ∉ target w := fun h ↦ absurd (printable _ h).1 (by decide)
  have root : (target w).toText.toList.head? = some '/' := by
    rw [spelled]
    simp [Route.lockPath]
  rw [← ascii.utf8_toText] at line noSpace
  obtain ⟨i, ends, -, read⟩ := RequestHead.read?_get root
    (fun h ↦ noSpace ((mem_utf8_iff (by decide)).mpr h)) (Header.isLine_utf8_iff.mp line)
    (by decide : '\r' ∉ "localhost".toList ∧ '\n' ∉ "localhost".toList)
  refine ⟨i, _, ends, read, ascii.utf8_toText, ?_⟩
  have parts : splitTarget (target w).toText = (Route.lockPath, some (query w)) := by
    rw [spelled]
    exact splitTarget_append _ (by decide)
  have starts : Route.startsWith Route.lockPath Route.lockPath = true := by decide +kernel
  simp [Route.ofHead, RequestHead.path, RequestHead.query, parts, starts]

/-- What the sibling reads of the query. -/
theorem ofQuery_query {w : Window} (valid : w.Valid) (now : Instant) :
    Window.ofQuery (some (query w)) .lock now =
      if w.start.HasPlainYear then
        if w.stop.HasPlainYear then .ok ⟨w.start.wholeMillis, w.stop.wholeMillis⟩
        else .error ⟨.stop, (Rfc3339.writeMillis w.stop).toText, .invalid⟩
      else .error ⟨.start, (Rfc3339.writeMillis w.start).toText, .invalid⟩ := by
  have start := (Rfc3339.isAscii_writeMillis w.start).utf8_toText
  have stop := (Rfc3339.isAscii_writeMillis w.stop).utf8_toText
  have names : Window.sideOf? Window.Side.start.name = some .start ∧
      Window.sideOf? Window.Side.stop.name = some .stop := by decide
  rw [Window.ofQuery, Option.getD_some, utf8_query, Form.pairs_write, ends]
  simp only [Window.endsFrom, names, start, stop]
  by_cases first : w.start.HasPlainYear
  · rw [Rfc3339.read_writeMillis valid.1 first, if_pos first]
    by_cases last : w.stop.HasPlainYear
    · rw [Rfc3339.read_writeMillis valid.2 last, if_pos last]
      rfl
    · rw [Rfc3339.read_writeMillis_of_not last, if_neg last]
      rfl
  · rw [Rfc3339.read_writeMillis_of_not first, if_neg first]
    rfl

/-- **Both instances read the same window** where four digits can say the years of both ends.
Whatever the public asks for, the sibling finds a request for its own summary; at whatever time, it
reads from it a window with the same ends in whole milliseconds exactly if both years have four
digits, and otherwise it refuses the request. -/
theorem sibling_reads_same_window_iff {asked : Option String} {now : Instant} {w : Window}
    (clock : now.Valid) (accepted : Window.ofQuery asked .merged now = .ok w) :
    ∃ i head q, Header.blockEnd? (request w) = some i ∧
      RequestHead.read? ((request w).take i) = some head ∧ utf8 head.target = target w ∧
      Route.ofHead head = .summary .lock (some q) ∧
      ∀ siblingNow,
        ((∃ read, Window.ofQuery (some q) .lock siblingNow = .ok read ∧
            read.start.toMillis = w.start.toMillis ∧ read.stop.toMillis = w.stop.toMillis) ↔
          w.start.HasPlainYear ∧ w.stop.HasPlainYear) ∧
        (¬ (w.start.HasPlainYear ∧ w.stop.HasPlainYear) →
          ∃ fault, Window.ofQuery (some q) .lock siblingNow = .error fault ∧
            fault.cause = .invalid) := by
  have valid := Window.valid_ofQuery clock accepted
  obtain ⟨i, head, ends, read, same, route⟩ := read?_request w
  refine ⟨i, head, query w, ends, read, same, route, fun siblingNow ↦ ?_⟩
  rw [ofQuery_query valid]
  by_cases first : w.start.HasPlainYear
  · by_cases last : w.stop.HasPlainYear
    · simp [first, last]
    · simp [first, last]
  · simp [first]

/-- A window from the middle of a leap second on: the sibling reads the same milliseconds. -/
theorem sibling_reads_leap_second :
    ∃ w q, Window.ofQuery (some "from=2016-12-31T23:59:60.5009Z&to=2017-01-01T01:00:00%2B01:00")
        .merged ⟨1483300000, 0⟩ = .ok w ∧
      ∃ read, Window.ofQuery (some q) .lock ⟨0, 0⟩ = .ok read ∧
        read.start.toMillis = 1483228800500 ∧ read.stop.toMillis = 1483228800000 := by
  have accepted : Window.ofQuery
      (some "from=2016-12-31T23:59:60.5009Z&to=2017-01-01T01:00:00%2B01:00") .merged ⟨1483300000, 0⟩
      = .ok ⟨⟨1483228799, 1500900000⟩, ⟨1483228800, 0⟩⟩ := by decide +kernel
  obtain ⟨-, -, q, -, -, -, -, reads⟩ := sibling_reads_same_window_iff (by decide) accepted
  obtain ⟨read, found, start, stop⟩ := (reads ⟨0, 0⟩).1.mpr (by decide +kernel)
  exact ⟨_, q, accepted, read, found, start, stop⟩

/-- An end before the year 0, which the public names as the start of that year at an offset of 23
hours and 59 minutes: the public's query is accepted, and the sibling refuses the one that is made
of it. -/
theorem sibling_refuses_year_before_zero :
    ∃ w i head q, Window.ofQuery
        (some "from=0000-01-01T00:00:00%2B23:59&to=2025-07-15T12:00:00Z") .merged ⟨1752580800, 0⟩
        = .ok w ∧
      Header.blockEnd? (request w) = some i ∧
      RequestHead.read? ((request w).take i) = some head ∧ utf8 head.target = target w ∧
      Route.ofHead head = .summary .lock (some q) ∧
      Window.ofQuery (some q) .lock ⟨1752580800, 0⟩
        = .error ⟨.start, "-0001-12-31T00:01:00.000Z", .invalid⟩ := by
  let w : Window := ⟨⟨-62167305540, 0⟩, ⟨1752580800, 0⟩⟩
  have accepted : Window.ofQuery
      (some "from=0000-01-01T00:00:00%2B23:59&to=2025-07-15T12:00:00Z") .merged ⟨1752580800, 0⟩
      = .ok w := by decide +kernel
  have other : ¬ w.start.HasPlainYear := by decide +kernel
  have written : (Rfc3339.writeMillis w.start).toText = "-0001-12-31T00:01:00.000Z" := by
    decide +kernel
  obtain ⟨i, head, ends, read, same, route⟩ := read?_request w
  refine ⟨w, i, head, query w, accepted, ends, read, same, route, ?_⟩
  rw [ofQuery_query (by decide), if_neg other, written]

end Peer

end PaymentRelay
