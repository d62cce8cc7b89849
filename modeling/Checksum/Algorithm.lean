import Checksum.Md5
import Checksum.Sha256

/-!
# Algorithms

The three hash functions, in the ascending order in which they are listed. A name is read with white
space dropped at its ends, hyphens and underscores dropped anywhere inside, and ASCII letters in
either case; whatever else is different makes it a name of no algorithm.
-/

namespace Checksum

inductive Algorithm where
  | md5
  | sha224
  | sha256
  deriving DecidableEq, Repr

namespace Algorithm

def all : List Algorithm := [md5, sha224, sha256]

def rank : Algorithm → Nat
  | md5 => 0
  | sha224 => 1
  | sha256 => 2

/-- The name for display. -/
def name : Algorithm → String
  | md5 => "MD5"
  | sha224 => "SHA-224"
  | sha256 => "SHA-256"

/-- The name as one capitalised word. -/
def label : Algorithm → String
  | md5 => "Md5"
  | sha224 => Sha256.Variant.sha224.label
  | sha256 => Sha256.Variant.sha256.label

/-- The letters and digits of the name, in lower case. -/
def key : Algorithm → String
  | md5 => "md5"
  | sha224 => "sha224"
  | sha256 => "sha256"

def ofVariant : Sha256.Variant → Algorithm
  | .sha224 => sha224
  | .sha256 => sha256

def digestSize : Algorithm → Nat
  | md5 => Md5.digestSize
  | sha224 => Sha256.Variant.sha224.digestSize
  | sha256 => Sha256.Variant.sha256.digestSize

/-- The number of words in a chaining value. -/
def words : Algorithm → Nat
  | md5 => 4
  | sha224 => 8
  | sha256 => 8

def tag : Algorithm → Tag
  | md5 => Md5.tag
  | sha224 => Sha256.Variant.sha224.tag
  | sha256 => Sha256.Variant.sha256.tag

end Algorithm

end Checksum
