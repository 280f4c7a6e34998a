/-
**Failures.**

What can go wrong while a request is served. A failure has a name and a text under which it is
reported; the failures of this library form a small hierarchy, from the most specific kind to
the general one (`Failure.lineage`). The database, its driver and whatever else is called may
have kinds of their own, known by their names only. What breaks a request off, such as a
cancellation, is not an ordinary failure: nothing here may swallow it. The signals with which a
generator ends are no failures.
-/

namespace SignIn

/-- Failures of the directory of users. -/
inductive GatewayFault where
  /-- The directory could not be asked. -/
  | unavailable (message : String)
  /-- What was found is no user. -/
  | unmappable (message : String)
  /-- What was found is no user, because of one column. -/
  | undecodable (column reason : String)
deriving DecidableEq

namespace GatewayFault

/-- The text of a directory failure. -/
def message : GatewayFault → String
  | unavailable message => message
  | unmappable message => message
  | undecodable column reason => "Cannot decode user column '" ++ column ++ "': " ++ reason

/-- Whether something was found that is no user. -/
def isMapping : GatewayFault → Bool
  | unavailable _ => false
  | unmappable _ => true
  | undecodable _ _ => true

/-- The kinds that a directory failure belongs to, the most specific first. -/
def lineage : GatewayFault → List String
  | unavailable _ => ["GatewayError", "ApplicationError"]
  | unmappable _ => ["DataMapperError", "GatewayError", "ApplicationError"]
  | undecodable _ _ => ["UserRowDecodeError", "DataMapperError", "GatewayError", "ApplicationError"]

/-- The name of a directory failure. -/
def name (fault : GatewayFault) : String :=
  fault.lineage.headD ""

end GatewayFault

/-- Failures reported by the database. Their texts are the database's own and not kept. -/
inductive StorageFault where
  | general
  | operational
  | integrity
  | interface
  | invalidRequest
  | noResult
  /-- A value cannot be kept. -/
  | programming
  /-- A kind of the driver's own. -/
  | other (name : String)
deriving DecidableEq

/-- The name of a database failure. -/
def StorageFault.name : StorageFault → String
  | general => "SQLAlchemyError"
  | operational => "OperationalError"
  | integrity => "IntegrityError"
  | interface => "InterfaceError"
  | invalidRequest => "InvalidRequestError"
  | noResult => "NoResultFound"
  | programming => "ProgrammingError"
  | other name => name

/-- Failures of no part in particular. -/
inductive GeneralFault where
  | runtime
  | wrongValue
  | wrongType
  | connection
  | timeout
  | missingAttribute
  | indexOutOfRange
  /-- A kind that only its name tells. -/
  | other (name : String)
deriving DecidableEq

/-- The name of a general failure. -/
def GeneralFault.name : GeneralFault → String
  | runtime => "RuntimeError"
  | wrongValue => "ValueError"
  | wrongType => "TypeError"
  | connection => "ConnectionError"
  | timeout => "TimeoutError"
  | missingAttribute => "AttributeError"
  | indexOutOfRange => "IndexError"
  | other name => name

/-- What can go wrong while a request is served. -/
inductive Failure where
  /-- A failure of this library without a more specific kind. -/
  | application (message : String)
  /-- The client's input breaks a policy. -/
  | badRequest (message : String)
  /-- A principal could not be established; the directory failure behind it is kept, if there was
  one. -/
  | unauthorized (reason : String) (cause : Option GatewayFault)
  /-- The service is wired wrongly. -/
  | internal (message : String)
  /-- The directory of users failed. -/
  | gateway (fault : GatewayFault)
  /-- A domain rule was broken. -/
  | domain (message : String)
  /-- A cookie would break a security rule. -/
  | invalidCookie (message : String)
  /-- The database failed. -/
  | storage (fault : StorageFault)
  /-- A number is too large for what it is needed for. -/
  | outOfRange
  /-- Something else failed. -/
  | general (fault : GeneralFault) (message : String)
  /-- The request was cancelled. -/
  | cancelled (message : String)
  /-- The request was broken off in another way, which only its name tells. -/
  | interrupted (name message : String)
deriving DecidableEq

namespace Failure

/-- The only text of an unauthorized failure that is shown, whatever its reason. -/
def unauthorizedMessage : String := "Unauthorized"

/-- The text of a failure; the database's failures and numbers out of range have none. -/
def message? : Failure → Option String
  | application message | badRequest message | internal message => some message
  | unauthorized _ _ => some unauthorizedMessage
  | gateway fault => some fault.message
  | domain message | invalidCookie message => some message
  | storage _ | outOfRange => none
  | general _ message | cancelled message | interrupted _ message => some message

/-- The kinds that a failure belongs to, the most specific first. -/
def lineage : Failure → List String
  | application _ => ["ApplicationError"]
  | badRequest _ => ["BadRequestError", "ApplicationError"]
  | unauthorized _ _ => ["UnauthorizedError", "ApplicationError"]
  | internal _ => ["InternalError", "ApplicationError"]
  | gateway fault => fault.lineage
  | domain _ => ["DomainError"]
  | invalidCookie _ => ["InvalidCookieError", "DomainError"]
  | storage fault => [fault.name]
  | outOfRange => ["OverflowError"]
  | general fault _ => [fault.name]
  | cancelled _ => ["CancelledError"]
  | interrupted name _ => [name]

/-- The name under which a failure is reported. -/
def name (failure : Failure) : String :=
  failure.lineage.headD ""

/-- Whether a failure may be handled; what breaks the request off may not. -/
def isOrdinary : Failure → Bool
  | cancelled _ | interrupted _ _ => false
  | _ => true

end Failure

end SignIn
