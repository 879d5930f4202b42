import EasyCab.Common.MessageCodec

/-!
# A customer

`EC_Customer` with the thread of its main function and the one of `ping`. The main
thread keeps one `request` and changes some of its fields before it sends it, so the
data of an earlier request stays under that of a later one.
-/

namespace EasyCab

open Library

namespace Message

/-- `memcpy(session, getData().data(), 36)`. -/
def uuidFromData (message : Message) : Uuid :=
  ⟨message.data.1.take uuidLength, by simp [uuidLength, maxDataSize]⟩

end Message

/-- Where the main thread is. -/
inductive Errand where
  /-- Before the request of `handshake` is sent. -/
  | greeting
  /-- In the loop of `handshake`, with `i`. -/
  | shaking (i : Nat)
  /-- At the head of the loop over the services. -/
  | asking (index : Nat)
  /-- In the loop of `askService`. -/
  | waiting (index : Nat)
  /-- In the loop after `askService`, with `j`. -/
  | counting (index j : Nat)
  /-- The process has ended. -/
  | ended
deriving DecidableEq

/-- The state of `EC_Customer`. `services` is what `readFile` reads, if it can open its file. -/
structure EcCustomer where
  request : FullMessage
  services : Option (List Id)
  errand : Errand
deriving DecidableEq

namespace EcCustomer

/-- What can happen to the process. -/
inductive Event where
  /-- The main thread goes on. -/
  | proceed
  /-- `consume` returns. -/
  | consume (message : Option FullMessage)
  /-- One pass through the loop of `ping`. -/
  | ping

/-- Before `handshake` sends its request. -/
def start (id : Id) (coord : Coordinate) (uuid : Uuid) (services : Option (List Id)) :
    EcCustomer where
  request := ⟨{ Message.request uuid.1 .newCustomer with id := id, coord := coord }, uuid.length⟩
  services := services
  errand := .greeting

/-- The subject of a response. -/
def response? (message : FullMessage) : Option SubjResponse :=
  match message.1.subject with
  | .response subject => some subject
  | _ => none

/-- One pass through the loop of `handshake`, and `readFile` after an `ACCEPT`. -/
def handshake (customer : EcCustomer) (i : Nat) : Option FullMessage → EcCustomer
  | none => { customer with errand := if i + 1 < 5 then .shaking (i + 1) else .ended }
  | some message =>
      if ¬ message.1.checkSession customer.request.1.session then customer
      else if response? message = some .accept then
        { customer with
          request := ⟨{ customer.request.1 with session := message.1.uuidFromData.1 },
            message.1.uuidFromData.2⟩
          errand := if customer.services.isSome then .asking 0 else .ended }
      else { customer with errand := .ended }

/-- One pass through the loop of `askService`. -/
def askService (customer : EcCustomer) (index : Nat) : Option FullMessage → EcCustomer
  | none => customer
  | some message =>
      if message.1.id ≠ customer.request.1.id then customer
      else
        match response? message with
        | some .customerDisconnect => { customer with errand := .ended }
        | some .customerServiceCompleted | some .customerServiceDenied =>
            { customer with
              request := ⟨{ customer.request.1 with
                subject := .request .customerUpdateNextRequest }, customer.request.2⟩
              errand := .counting index 4 }
        | _ => customer

/-- What the main thread does where it does not wait for a message. -/
def proceed (customer : EcCustomer) : Option (EcCustomer × List FullMessage) :=
  match customer.errand with
  | .greeting => some ({ customer with errand := .shaking 0 }, [customer.request])
  | .asking index =>
      match (customer.services.getD [])[index]? with
      | none => some ({ customer with errand := .ended }, [])
      | some service =>
          let asked := { customer.request.1 with subject := .request .customerServiceRequest }
          let request : FullMessage := ⟨asked.setCharData service, customer.request.2⟩
          some ({ customer with request := request, errand := .waiting index }, [request])
  | .counting index j =>
      match j with
      | 0 => some ({ customer with errand := .asking (index + 1) }, [])
      | j + 1 =>
          let request : FullMessage :=
            ⟨customer.request.1.setIntData (Int32.ofNat j), customer.request.2⟩
          some ({ customer with request := request, errand := .counting index j }, [request])
  | .shaking _ | .waiting _ | .ended => none

/-- The message of `ping`, whose thread runs from the end of `readFile` on. -/
def ping (customer : EcCustomer) : Option (EcCustomer × List FullMessage) :=
  match customer.errand with
  | .asking _ | .waiting _ | .counting _ _ =>
      some (customer,
        [⟨{ Message.request customer.request.1.session .customerPing with
            id := customer.request.1.id }, customer.request.2⟩])
  | .greeting | .shaking _ | .ended => none

/-- What the process does next, and where it is then. -/
def turn (customer : EcCustomer) : Event → Option (EcCustomer × List FullMessage)
  | .proceed => customer.proceed
  | .consume message =>
      match customer.errand with
      | .shaking i => some (customer.handshake i message, [])
      | .waiting index => some (customer.askService index message, [])
      | _ => none
  | .ping => customer.ping

end EcCustomer

end EasyCab
