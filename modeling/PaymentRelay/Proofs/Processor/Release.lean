import PaymentRelay.Proofs.Processor.Turns

/-!
# Which connections go back to the pool

A call that has read a whole response gives its connection back; what a whole response is depends
on nothing but the octets that the call has read. The connection is in step if these octets are a
head and exactly the body that it declares.

That is so unless the head declares a length that is no numeral: it counts as no length then, and
what the processor meant as a body stays on the connection as the beginning of the next response.
Octets past the body are taken off as well if they came along with the end of the head; in an
exchange in lockstep there are none.
-/

namespace PaymentRelay

/-- A head tells the length of its body, or leaves it open: its first `Content-Length` line is a
numeral below 2⁶⁴, or there is no such line. -/
def Header.Legible (block : Bytes) : Prop :=
  (lines block).findSome? (value? contentLengthName) = none ∨ (contentLength? block).isSome = true

instance : DecidablePred Header.Legible := fun _ ↦ inferInstanceAs (Decidable (_ ∨ _))

namespace Exchange

open Header (terminator)

/-- The octets are a head that tells its length or leaves it open, and exactly as many octets of a
body. -/
def InStep (octets : Bytes) : Prop :=
  ∃ k ∈ Header.blockEnd? octets, Header.Legible (octets.take k) ∧
    octets.length = k + terminator.length + (Header.contentLength? (octets.take k)).getD 0

/-- The octets begin with a head that declares a length that cannot be read. -/
def Illegible (octets : Bytes) : Prop :=
  ∃ k ∈ Header.blockEnd? octets, ¬ Header.Legible (octets.take k)

/-- The octets begin with a head and go on beyond the body that it declares. -/
def Overrun (octets : Bytes) : Prop :=
  ∃ k ∈ Header.blockEnd? octets,
    k + terminator.length + (Header.contentLength? (octets.take k)).getD 0 < octets.length

instance : DecidablePred InStep := fun _ ↦ inferInstanceAs (Decidable (∃ k ∈ _, _))

instance : DecidablePred Illegible := fun _ ↦ inferInstanceAs (Decidable (∃ k ∈ _, _))

instance : DecidablePred Overrun := fun _ ↦ inferInstanceAs (Decidable (∃ k ∈ _, _))

/-- A whole response has been read in step, unless its length is illegible or it is overrun. -/
theorem inStep_iff_of_whole {capacity : Nat} {octets body : Bytes} {status : Status}
    (whole : Whole capacity octets status body) :
    InStep octets ↔ ¬ Illegible octets ∧ ¬ Overrun octets := by
  obtain ⟨k, ends, -, -, length, tail⟩ := whole
  have enough := tail.length_le
  rw [List.length_drop] at enough
  have within : k + terminator.length ≤ octets.length := Bytes.find?_add_le ends
  have only {j : Nat} (ends' : Header.blockEnd? octets = some j) : j = k := by
    rw [ends] at ends'
    exact (Option.some.inj ends').symm
  constructor
  · rintro ⟨j, ends', legible, exact_⟩
    refine ⟨?_, ?_⟩
    · rintro ⟨j', ends'', illegible⟩
      rw [only ends''] at illegible
      rw [only ends'] at legible
      exact illegible legible
    · rintro ⟨j', ends'', past⟩
      rw [only ends''] at past
      rw [only ends'] at exact_
      omega
  · rintro ⟨legible, exact_⟩
    refine ⟨k, ends, ?_, ?_⟩
    · by_contra illegible
      exact legible ⟨k, ends, illegible⟩
    · by_contra other
      exact exact_ ⟨k, ends, by omega⟩

end Exchange

namespace Processor.Client

open Exchange (front Whole InStep Illegible Overrun)

instance (c c' : Client) (i : Nat) : Decidable (GaveBack c c' i) :=
  inferInstanceAs (Decidable (_ ∧ _))

/-- What is asked of the end of a call that has read these octets from a connection: that the
connection goes back in step or not at all, and that a call whose response declares a length that
cannot be read fails, and its connection is never used again. -/
def Careful (c c' : Client) (i : Nat) (octets : Bytes) (stage : Stage) : Prop :=
  (GaveBack c c' i → InStep octets) ∧
    (Illegible octets →
      Replaced c c' i ∧ stage.Failed ∧ ∀ events, i ∉ (c'.run events).kept)

section Ends

variable {c c' : Client} {i : Nat} {octets : Bytes} {stage : Stage}

theorem not_gaveBack_of_replaced (replaced : Replaced c c' i) : ¬ GaveBack c c' i := by
  rintro ⟨-, same⟩
  obtain ⟨-, more, -⟩ := replaced
  omega

/-- A call that has read a whole response and gives its connection back ends as it should, if the
response was read in step. -/
theorem careful_iff_of_gaveBack {status : Status} {body : Bytes} (gave : GaveBack c c' i)
    (whole : Whole responseTerms.capacity octets status body) :
    Careful c c' i octets stage ↔ ¬ Illegible octets ∧ ¬ Overrun octets := by
  constructor
  · rintro ⟨inStep, -⟩
    exact (Exchange.inStep_iff_of_whole whole).mp (inStep gave)
  · intro fine
    refine ⟨fun _ ↦ (Exchange.inStep_iff_of_whole whole).mpr fine, fun illegible ↦ ?_⟩
    exact absurd illegible fine.1

theorem careful_of_replaced (owned : Owned c') (made : i < c'.links.size)
    (replaced : Replaced c c' i) (failed : stage.Failed) : Careful c c' i octets stage := by
  refine ⟨fun gave ↦ ?_, fun _ ↦ ⟨replaced, failed, fun events ↦ ?_⟩⟩
  · exact absurd gave (not_gaveBack_of_replaced replaced)
  · exact owned.not_kept_run made replaced.2.2.2 events

end Ends

/-- **A connection goes back in step or not at all**, whatever the processor has sent and however it
was cut, if and only if the length of a whole response can be read and nothing came past its body.
The call has the connection before a step and has ended after it. -/
theorem careful_iff_legible (terms : Terms) (size : Nat) (before : List Event) (event : Event)
    {a i : Nat} {call call' : Call}
    (there : ((new terms size).run before).calls[a]? = some call)
    (held : call.stage.link? = some i)
    (there' : ((new terms size).run (before ++ [event])).calls[a]? = some call')
    (ended : call'.stage.link? = none) :
    let octets := (new terms size).heard a (before ++ [event])
    Careful ((new terms size).run before) ((new terms size).run (before ++ [event])) i octets
        call'.stage ↔
      ∀ status body, Whole responseTerms.capacity octets status body →
        ¬ Illegible octets ∧ ¬ Overrun octets := by
  intro octets
  have owned := ((owned_new terms size).run before).owned
  have fits := fits_heard terms size before there
  have next : (new terms size).run (before ++ [event])
      = ((new terms size).run before).step event := List.foldl_append
  have read : octets = (new terms size).heard a before
      ++ ((new terms size).run before).takes a event := by
    rw [show octets = _ from heard_append ..]
    exact congrArg _ (List.append_nil _)
  rw [next] at there' ⊢
  obtain ⟨stage, there'', turn⟩ := turn_step owned there event
  rw [there''] at there'
  cases there'
  have after := owned.step event
  -- it has read a whole response and gives back, or it has not and its connection is replaced
  rcases fits.ended turn held ended with ⟨answer, body, here, gave, -⟩ | ⟨none_, replaced, failed⟩
  · rw [← read] at here
    have whole := Exchange.whole_of_front here
    rw [careful_iff_of_gaveBack gave whole]
    exact ⟨fun fine _ _ _ ↦ fine, fun fine ↦ fine _ _ whole⟩
  · rw [← read] at none_
    have made := Nat.lt_of_lt_of_le (owned.made i (held_mem_kept there held)) after.links
    constructor
    · intro _ status body whole
      exact absurd (Exchange.front_of_whole whole) (none_ _ _)
    · intro _
      exact careful_of_replaced after.owned made replaced failed

/-- A pool of one connection and two calls, the first of which has written its request. -/
def asked : List Event :=
  [.warmed, .call ⟨"a", .zero⟩ 0 0, .call ⟨"b", .zero⟩ 1 0, .lease, .write 0 none]

/-- The head of a response whose body comes later. -/
def plainHead : Bytes := utf8 "HTTP/1.1 200 OK\r\nContent-Length: 2\r\n\r\n"

/-- The first call has read the head, and the body has come. -/
def plainly : List Event :=
  asked ++ [.deliver 0 plainHead, .read 0, .deliver 0 (utf8 "ok")]

/-- The body is read up to its end, and the connection is given back for the second call. -/
theorem plain_response_careful :
    let c := (new ⟨"localhost", 5⟩ 1).run plainly
    let c' := (new ⟨"localhost", 5⟩ 1).run (plainly ++ [.read 0])
    GaveBack c c' 0 ∧ Careful c c' 0 (plainHead ++ utf8 "ok") (.finished .taken) := by
  intro c c'
  let call (stage : Stage) : Call := ⟨⟨"a", .zero⟩, 0, stage⟩
  have gave : GaveBack c c' 0 := by decide +kernel
  have there : c.calls[0]? = some (call (.reading 0 (.body ⟨200, 2⟩ plainHead [[]] 2))) := by
    decide +kernel
  have there' : c'.calls[0]? = some (call (.finished .taken)) := by decide +kernel
  have read : (new ⟨"localhost", 5⟩ 1).heard 0 (plainly ++ [.read 0])
      = plainHead ++ utf8 "ok" := by decide +kernel
  have fine : ¬ Illegible (plainHead ++ utf8 "ok") ∧ ¬ Overrun (plainHead ++ utf8 "ok") := by
    decide +kernel
  have careful := careful_iff_legible ⟨"localhost", 5⟩ 1 plainly (.read 0) there rfl there' rfl
  dsimp only at careful
  rw [read] at careful
  exact ⟨gave, careful.mpr fun _ _ _ ↦ fine⟩

/-- The head of a response whose length is no numeral. -/
def oddHead : Bytes := utf8 "HTTP/1.1 200 OK\r\nContent-Length: 38x\r\n\r\n"

/-- The body that is meant, which looks like a response. -/
def innerHead : Bytes := utf8 "HTTP/1.1 500 Oops\r\nContent-Length: 0\r\n\r\n"

/-- The head has come, and the body comes later. -/
def oddly : List Event := asked ++ [.deliver 0 oddHead]

/-- The payment is taken and the connection goes back, but not in step: the body that is meant is
read as the response to the next payment. -/
theorem body_read_as_next_response :
    let c := (new ⟨"localhost", 5⟩ 1).run oddly
    let c' := (new ⟨"localhost", 5⟩ 1).run (oddly ++ [.read 0])
    let later := c'.run [.deliver 0 innerHead, .lease, .write 1 none, .read 1]
    c.calls.map (·.stage.link?) = #[some 0, none] ∧
      c'.calls[0]?.map (·.stage) = some (.finished .taken) ∧ GaveBack c c' 0 ∧
      ¬ Careful c c' 0 ((new ⟨"localhost", 5⟩ 1).heard 0 (oddly ++ [.read 0])) (.finished .taken) ∧
      later.calls[1]?.map (·.stage) = some (.finished (.refused (.status 500))) := by
  intro c c' later
  have gave : GaveBack c c' 0 := by decide +kernel
  refine ⟨by decide +kernel, by decide +kernel, gave, ?_, by decide +kernel⟩
  rintro ⟨inStep, -⟩
  have behind : ¬ InStep ((new ⟨"localhost", 5⟩ 1).heard 0 (oddly ++ [.read 0])) := by
    decide +kernel
  exact behind (inStep gave)

end Processor.Client

end PaymentRelay
