import OpenJax.Shared.Json

set_option autoImplicit false

namespace OpenJax.Gateway

open Shared

structure ApiError where
  status : Nat
  code : String
  message : String
  retryable : Bool
  details : Json

namespace ApiError

def invalidArgument (message : String) (details : Json) : ApiError :=
  ⟨400, "INVALID_ARGUMENT", message, false, details⟩

def notFound (message : String) (details : Json) : ApiError :=
  ⟨404, "NOT_FOUND", message, false, details⟩

def conflict (message : String) (details : Json) : ApiError :=
  ⟨409, "CONFLICT", message, false, details⟩

def upstreamUnavailable (message : String) (details : Json) : ApiError :=
  ⟨502, "UPSTREAM_UNAVAILABLE", message, true, details⟩

def internal (message : String) : ApiError :=
  ⟨500, "INTERNAL", message, false, .empty⟩

end ApiError

end OpenJax.Gateway
