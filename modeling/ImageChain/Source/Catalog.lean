import ImageChain.Image
import ImageChain.Source.Build

/-!
# Sources in use

The hosts of a web source take turns, so a source changes while it is used.  A catalog holds every
source that has been built, and whatever uses a source refers to it by its place in the catalog.
-/

namespace ImageChain

/-- The sources that have been built. -/
structure Catalog where
  /-- The sources, in the order in which they were built. -/
  sources : Array Source

namespace Catalog

variable [Codecs] {m : Type → Type} [Monad m]

/-- The catalog without any source. -/
def empty : Catalog := ⟨#[]⟩

/-- Builds the source that an address describes and gives its place. -/
def build (backends : Backends m) (interval : Duration) (uri : String) :
    ExceptT Failure (StateT Catalog m) Nat := ExceptT.mk do
  match ← StateT.lift (Source.build backends.ping interval uri).run with
  | .error failure => return .error failure
  | .ok source =>
    let catalog ← get
    set (⟨catalog.sources.push source⟩ : Catalog)
    return .ok catalog.sources.size

/-- Looks an image up in the source at a place. -/
def find (backends : Backends m) (place : Nat) (parameters : List String) :
    ExceptT Failure (StateT Catalog m) Image := ExceptT.mk do
  match (← get).sources[place]? with
  | none => return .error (.notFound (toString place))
  | some source =>
    match source.request parameters with
    | .error failure => return .error failure
    | .ok (request, source) =>
      modify fun catalog => ⟨catalog.sources.setIfInBounds place source⟩
      match ← StateT.lift (request.perform backends).run with
      | .error failure => return .error failure
      | .ok bytes => return Image.decode bytes

/-- Fetches an image from a web address. -/
def fetch (backends : Backends m) (url : String) : ExceptT Failure m Image := ExceptT.mk do
  match ← (Request.fetch backends url).run with
  | .error failure => return .error failure
  | .ok bytes => return Image.decode bytes

end Catalog

end ImageChain
