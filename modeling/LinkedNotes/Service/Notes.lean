import LinkedNotes.Service.Operation
import LinkedNotes.Transaction.UnitOfWork

/-!
# Note service

The operations on notes, each in a unit of work of its own. One that changes something is committed
once, at its end; one that only looks is never committed.
-/

namespace LinkedNotes.Service

open Transaction

/-- The service over the backends of a coordinator. -/
structure Notes (ω η : Type) where
  coordinator : Coordinator ω η
  backend : Backend (Action (Session ω η))

namespace Notes

variable {ω η α : Type}

/-- Do something in a unit of work of its own and commit it. -/
def perform (service : Notes ω η) (body : Action (Session ω η) α) : Action ω α :=
  Coordinator.alone (service.coordinator.perform body)

/-- Look at something in a unit of work of its own. -/
def observe (service : Notes ω η) (body : Action (Session ω η) α) : Action ω α :=
  Coordinator.alone (service.coordinator.observe body)

/-- Create a note and tell its identifier. -/
def create (service : Notes ω η) (request : CreateRequest) : Action ω Identifier :=
  service.perform (Service.create service.backend request)

/-- Change a note. -/
def update (service : Notes ω η) (request : UpdateRequest) : Action ω Note :=
  service.perform (Service.update service.backend request)

/-- Delete a note. -/
def delete (service : Notes ω η) (note : Identifier) : Action ω Unit :=
  service.perform (Service.delete service.backend note)

/-- Merge notes into another one. -/
def merge (service : Notes ω η) (request : MergeRequest) : Action ω Note :=
  service.perform (Service.merge service.backend request)

/-- The note with the identifier. -/
def get (service : Notes ω η) (note : Identifier) : Action ω Note :=
  service.observe (noteOf service.backend note)

/-- The title the next untitled note of a user would get. -/
def newTitle (service : Notes ω η) (user : Identifier) : Action ω String :=
  service.observe (nextUntitled service.backend user)

end Notes

end LinkedNotes.Service
