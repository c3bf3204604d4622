import Turnstile.Http.Service

/-! Operations behind requests. A request that is let in and understood asks for one operation, and
the operation's answer is all that its response is made of. -/
namespace Turnstile.Http

/-- The request comes to a call, its caller is let in, and what it carries stands for the operation. -/
def Asks (c : Settings) (arrival : Arrival) (r : Request) (o : Operation) : Prop :=
  ∃ who call captures, place c arrival.circumstances.clocks.wall r = .call who call captures ∧
    call.operation captures r = .ok o

/-- A login is asked for by a body with a phone and a password. -/
theorem asks_login {c : Settings} {arrival : Arrival} {r : Request} {b : Credentials}
    (hplace : place c arrival.circumstances.clocks.wall r = .call none .login [])
    (hbody : body .credentials r = .ok b) : Asks c arrival r (.login b.phone b.password) := by
  refine ⟨none, .login, [], hplace, ?_⟩
  show (body .credentials r >>= fun b => pure (Operation.login b.phone b.password)) = _
  rw [hbody]
  rfl

/-- The response to an operation that fails is that of its error. -/
theorem handle_of_error {c : Settings} {arrival : Arrival} {r : Request} {o : Operation}
    {db db' : Database} {e : Error} (hasks : Asks c arrival r o)
    (he : Event.answer c ⟨arrival.circumstances, o⟩ db = (.error e, db')) :
    handle c arrival r db = (e.response.finish arrival r, db') := by
  obtain ⟨who, call, captures, hplace, hoperation⟩ := hasks
  simp only [handle, hplace, answerPlaced, answerCall, hoperation, he]

/-- What a caller is told when there is no store to ask: no more than that. -/
def unavailable : Response :=
  .of .serviceUnavailable
    (.json (.record [("error", .text "unavailable"), ("message", .text "service unavailable")]))

theorem response_storeUnavailable (cause : String) :
    (Error.storeUnavailable cause).response = unavailable := rfl

end Turnstile.Http
