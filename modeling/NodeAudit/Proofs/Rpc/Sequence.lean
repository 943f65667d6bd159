import NodeAudit.Rpc.Transport

/-!
# Requests sent one after the other

`Transport.sendAll` sends requests in order and threads the state of the transport through them; it
is what the runs of the library are compared with. `Transport.recording` is a transport that also
keeps the requests, in the order in which they are sent.
-/

namespace NodeAudit.Rpc.Transport

variable {σ : Type}

/-- What comes of requests that are sent one after the other, and the state after the last. -/
def sendAll (transport : Transport σ) : List Request → σ → List Sent × σ
  | [], world => ([], world)
  | r :: rest, world =>
    let (sent, world) := transport.send world r
    let (sends, world) := transport.sendAll rest world
    (sent :: sends, world)

/-- The transport that keeps the requests. -/
def recording (transport : Transport σ) : Transport (σ × List Request) where
  endpoint := transport.endpoint
  send := fun (world, sent) r =>
    let (answer, world) := transport.send world r
    (answer, world, sent ++ [r])

section
variable (transport : Transport σ)

theorem sendAll_cons (r : Request) (rest : List Request) (world : σ) :
    transport.sendAll (r :: rest) world
      = ((transport.send world r).1 :: (transport.sendAll rest (transport.send world r).2).1,
        (transport.sendAll rest (transport.send world r).2).2) := rfl

theorem sendAll_append (l l' : List Request) (world : σ) :
    transport.sendAll (l ++ l') world
      = ((transport.sendAll l world).1 ++ (transport.sendAll l' (transport.sendAll l world).2).1,
        (transport.sendAll l' (transport.sendAll l world).2).2) := by
  induction l generalizing world with
  | nil => rfl
  | cons r l ih => simp only [List.cons_append, sendAll_cons, ih]

theorem length_sendAll (l : List Request) (world : σ) :
    (transport.sendAll l world).1.length = l.length := by
  induction l generalizing world with
  | nil => rfl
  | cons r l ih => simp only [sendAll_cons, List.length_cons, ih]

/-- What is kept are the requests, and keeping them changes nothing. -/
theorem sendAll_recording (l : List Request) (world : σ) (sent : List Request) :
    transport.recording.sendAll l (world, sent)
      = ((transport.sendAll l world).1, (transport.sendAll l world).2, sent ++ l) := by
  induction l generalizing world sent with
  | nil => rw [List.append_nil]; rfl
  | cons r l ih =>
    simp only [sendAll_cons, recording] at ih ⊢
    rw [ih, List.append_assoc, List.singleton_append]

end

end NodeAudit.Rpc.Transport
