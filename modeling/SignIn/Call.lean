/-
**Calls on a storage.**

Everything that a client can ask of the directory, of the lookup in front of it, or of the
session table, as data, so that whole runs can be spoken about.
-/

import SignIn.Lookup
import SignIn.Revocation

namespace SignIn

/-- What a call gives, where users are values of the type `α`. -/
inductive Call.Result (α : Type) where
  | user (found : Option α)
  | value (value : Value)
  | count (rows : Int)
  | done

/-- The same report with another form of the result. -/
def Report.map {α β : Type} (form : α → β) (report : Report α) : Report β :=
  ⟨report.outcome.map form, report.entries⟩

/-- A question about a principal. -/
inductive Inquiry where
  | byEmail (email : String)
  | byId (id : Uuid)
  | isAdmin (subject : Lookup.Subject)
  | userExists (email : String)
  /-- A question put to the directory itself, without the lookup in front of it. -/
  | direct (question : Directory.Question)

namespace Inquiry

variable {m : Type → Type} [Functor m] {α : Type}

/-- Asks a question of a directory. -/
def ask (directory : Directory m α) : Directory.Question → m (Except Failure (Call.Result α))
  | .findByEmail email => Except.map .user <$> directory.findByEmail email
  | .findById id => Except.map .user <$> directory.findById id
  | .adminFlag id => Except.map .value <$> directory.adminFlag id
  | .emailTaken email => Except.map .value <$> directory.emailTaken email

/-- Answers an inquiry from a directory. -/
def run (directory : Directory m α) : Inquiry → m (Report (Call.Result α))
  | byEmail email => Report.map (.user ∘ some) <$> Lookup.byEmail directory email
  | byId id => Report.map (.user ∘ some) <$> Lookup.byId directory id
  | isAdmin subject => Report.map (.value ∘ .bool) <$> Lookup.isAdmin directory subject
  | userExists email => Report.map .value <$> Lookup.userExists directory email
  | direct question => Report.silent <$> ask directory question

end Inquiry

/-- A call of a client of the storage. -/
inductive Call where
  | inquire (inquiry : Inquiry)
  | revokeAll (id : Uuid)
  | revoke (token : String)

/-- Carries out a call on a storage. -/
def Call.run {m : Type → Type} [Functor m] (storage : Storage m) :
    Call → m (Report (Call.Result User))
  | inquire inquiry => inquiry.run (Directory.ofStorage storage)
  | revokeAll id => Report.map .count <$> Revocation.allOfUser storage id
  | revoke token => Report.map .count <$> Revocation.ofToken storage token

end SignIn
