import SourceMetrics.Registry.Candidate

/-!
# Requests to a registry

A registry changes in three ways: a candidate is registered, a language is removed, or everything
is. Each is a request, and the requests made so far are the history of a registry. The removal of a
language that is not known leaves the registry as it was.

## Main definitions

* `Registry.Request` — what a registry may be asked for
* `Registry.carryOut` — the answer to a request, and the registry that it leaves
* `Registry.after`, `Registry.afterAll` — the registry after a request, and after a history
-/

namespace SourceMetrics

namespace Registry

/-- A change that a registry is asked for. -/
inductive Request where
  | register (language : String) (candidate : Candidate) (extensions aliases : List String)
      (metadata : List (String × Json))
  /-- The removal of a language, by its identifier or an alias. -/
  | unregister (name : String)
  | clear

/-- The answer to a request, and the registry that it leaves. -/
def carryOut (r : Registry) : Request → Except RegistryError Unit × Registry
  | .register language candidate extensions aliases metadata =>
    r.register language candidate extensions aliases metadata
  | .unregister name => (.ok (), (r.unregister name).getD r)
  | .clear => (.ok (), {})

/-- The registry after a request. -/
def after (r : Registry) (request : Request) : Registry := (r.carryOut request).2

/-- The registry after a history, oldest request first. -/
def afterAll (r : Registry) (history : List Request) : Registry := history.foldl after r

end Registry

end SourceMetrics
