import Moorage.Digest.Sha256
import Moorage.Text.Cut

/-!
# `Moorage.Image.Name`: names of images

* `canonical`: a name with an explicit tag.
* `archive`: the file name of an archive of images.
-/

set_option autoImplicit false

namespace Moorage.Image

/-- Whether a name says which version it means: a tag or a digest stands in its
last segment, where a colon cannot be the port of a registry. -/
def isPinned (name : String) : Bool :=
  (Text.afterLast '/' name.toList).any fun c => c = ':' || c = '@'

/-- The name with an explicit tag. -/
def canonical (name : String) : String := if isPinned name then name else name ++ ":latest"

/-- The file name of an archive of images: the digest of their names, one to a
line. -/
def archive (images : List String) : String :=
  let message := images.flatMap fun image => (image ++ "\n").toUTF8.toList
  "images-" ++ Digest.Sha256.hex message ++ ".tar"

end Moorage.Image
