import TeamView.Protocol.Control

set_option autoImplicit false

/-! # Sessions

The identity one connection has acquired (`crates/relay-server/src/session.rs`). -/

namespace TeamView.Relay

open TeamView.Protocol

structure Session where
  id : Nat
  user_id : Option UserId
  display_name : String
  access_granted : Bool
  deriving DecidableEq

namespace Session

def anonymous (id : Nat) : Session where
  id := id
  user_id := none
  display_name := s!"session-{id}"
  access_granted := false

def establishIdentity (session : Session) (user_id : UserId) (access_granted : Bool)
    (display_name : String) : Session :=
  { session with user_id := some user_id, display_name, access_granted }

def updateDisplayName (session : Session) (display_name : String) : Session :=
  { session with display_name }

def grantAccess (session : Session) : Session := { session with access_granted := true }

@[simp] theorem anonymous_user_id (id : Nat) : (anonymous id).user_id = none := rfl
@[simp] theorem anonymous_access_granted (id : Nat) : (anonymous id).access_granted = false := rfl

end Session

end TeamView.Relay
