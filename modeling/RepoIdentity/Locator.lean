import RepoIdentity.Text.Basic

/-!
# Locators

Where a repository lives: at an owner's name on a host, or in a directory.

* `Hosted` is the triple of host, owner and name, with its canonical URL and its
  display key;
* `Locator` is one of the two, and `Kind` tells which.
-/

namespace RepoIdentity

/-- The two kinds of repositories. -/
inductive Kind where
  /-- On a host, under an owner and a name. -/
  | url
  /-- In a directory of the file system. -/
  | localDirectory
deriving DecidableEq, Repr

namespace Kind

def name : Kind → Text
  | .url => "url".toList
  | .localDirectory => "local directory".toList

/-- The name of a kind in machine-readable output. -/
def tag : Kind → Text
  | .url => "url".toList
  | .localDirectory => "local_dir".toList

end Kind

/-- A repository on a host. -/
structure Hosted where
  /-- The host, with the port unless it is the usual one. -/
  host : Text
  owner : Text
  name : Text
deriving DecidableEq, Repr

namespace Hosted

/-- Host, owner and name with slashes between them. -/
def canonicalUrl (r : Hosted) : Text := r.host ++ '/' :: r.owner ++ '/' :: r.name

/-- Host, owner and name with hyphens between them. -/
def displayKey (r : Hosted) : Text := r.host ++ '-' :: r.owner ++ '-' :: r.name

end Hosted

/-- Where a repository lives. -/
inductive Locator where
  | directory (path : Text)
  | hosted (repository : Hosted)
deriving DecidableEq, Repr

namespace Locator

def kind : Locator → Kind
  | .directory _ => .localDirectory
  | .hosted _ => .url

def hosted? : Locator → Option Hosted
  | .directory _ => none
  | .hosted r => some r

def path? : Locator → Option Text
  | .directory path => some path
  | .hosted _ => none

/-- The display key of a hosted repository, the path of a local one. -/
def displayKey : Locator → Text
  | .directory path => path
  | .hosted r => r.displayKey

end Locator

end RepoIdentity
