/-
# Model.Login -- the sign-up page

A tap on "Sign Up" shows the spinner, reads the three fields and asks for a new account;
the callback alerts or sets the account up.  Its request is answered once, while the page
is there (`strongself`).  Who is signed in when the callback runs is not the page's to
say.
-/
import MindTheGap.Model.Firestore

namespace MindTheGap

set_option autoImplicit false

/-- The codes the callback tells apart. -/
inductive AuthErrorCode where
  | operationNotAllowed
  | emailAlreadyInUse
  | invalidEmail
  | weakPassword
  | other (rawValue : Int)
deriving DecidableEq, Repr

/-- What `createUser` calls back with. -/
inductive AuthOutcome where
  | error (code : AuthErrorCode)
  | success
deriving DecidableEq, Repr

/-- A call of `createUser`, with the name its callback captures. -/
structure Creation where
  email : String
  password : String
  name : String
  answered : Bool
deriving DecidableEq, Repr

/-- What the page asks of UIKit and of Firebase. -/
inductive LoginEffect where
  | showSpinner
  | removeSpinner
  | AlertofError (error message : String)
  | commitChanges (displayName : String)
  | setUser (uid : String) (data : Data)
  | dismiss
deriving DecidableEq, Repr

/-- The fields are the `text` of each. -/
structure Login where
  namefield : Option String
  emailfield : Option String
  passwordfield : Option String
  creations : List Creation := []
  effects : List LoginEffect := []
deriving DecidableEq, Repr

namespace Login

def ask (s : Login) (effects : List LoginEffect) : Login :=
  { s with effects := s.effects ++ effects }

def login (s : Login) : Login :=
  let s := s.ask [.showSpinner]
  match s.emailfield with
  | none => s
  | some email =>
      match s.passwordfield with
      | none => s
      | some password =>
          match s.namefield with
          | none => s
          | some name => { s with creations := s.creations ++ [⟨email, password, name, false⟩] }

/-- The cases of `AuthErrorCode`, the default last. -/
def creationError (s : Login) : AuthErrorCode → Login
  | .operationNotAllowed => s.ask
      [.AlertofError "Please try again" "Our server isn't having the best time right now.",
        .removeSpinner]
  | .emailAlreadyInUse => s.ask
      [.AlertofError "Please try again" "Email Already In Use", .removeSpinner]
  | .invalidEmail => s.ask
      [.AlertofError "Please try again" "Email address is badly formatted", .removeSpinner]
  | .weakPassword => s.ask
      [.AlertofError "Please try again" "Password must be 6 characters long or more",
        .removeSpinner]
  | .other _ => s.ask [.removeSpinner]

/-- The callback of `createUser`. -/
def creationCallback (s : Login) (currentUser : Option String) (creation : Creation) :
    AuthOutcome → Login
  | .error code => s.creationError code
  | .success =>
      match currentUser with
      | none => s
      | some uid => s.ask
          [.commitChanges creation.name, .setUser uid [("name", .string creation.name)],
            .removeSpinner, .dismiss]

/-- A callback is of one of the requests. -/
def created (s : Login) (currentUser : Option String) (k : Nat) (outcome : AuthOutcome) : Login :=
  match s.creations[k]? with
  | none => s
  | some creation =>
      creationCallback { s with creations := s.creations.set k { creation with answered := true } }
        currentUser creation outcome

end Login

end MindTheGap
