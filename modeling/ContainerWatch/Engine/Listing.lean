/-!
# Listings of the engine

The engine's listings of images and containers, reduced to identifiers and tags.
-/

namespace ContainerWatch

/-- One entry of a listing of images. -/
structure ImageSummary where
  id : String
  repoTags : List String
  deriving DecidableEq, Repr

/-- The identifiers and the tags of the images in a listing, each in the order of the listing. -/
structure ImageList where
  imageIds : List String
  repoTags : List String
  deriving DecidableEq, Repr

/-- The identifiers and the tags of listed images. -/
def ImageList.ofSummaries (images : List ImageSummary) : ImageList :=
  ⟨images.map ImageSummary.id, images.flatMap ImageSummary.repoTags⟩

/-- The identifiers of listed containers, those that the engine listed without one left out. -/
def listedContainerIds (ids : List (Option String)) : List String := ids.filterMap id

end ContainerWatch
