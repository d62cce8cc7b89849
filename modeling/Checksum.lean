import Checksum.Algorithm
import Checksum.Algorithm.Name
import Checksum.Backend
import Checksum.Block
import Checksum.Buffer
import Checksum.ByteOrder
import Checksum.Bytes
import Checksum.Command.Args
import Checksum.Command.Files
import Checksum.Command.Run
import Checksum.Compression
import Checksum.Flag
import Checksum.Hasher
import Checksum.Host
import Checksum.Log.Directive
import Checksum.Log.Event
import Checksum.Log.Filter
import Checksum.Log.Pattern
import Checksum.Main
import Checksum.Md5
import Checksum.Midstate
import Checksum.Midstate.Saved
import Checksum.Proofs.Backends
import Checksum.Proofs.Backwards
import Checksum.Proofs.Blocks
import Checksum.Proofs.Bytewise
import Checksum.Proofs.Canonical
import Checksum.Proofs.Choice
import Checksum.Proofs.Collision
import Checksum.Proofs.Command.Chain
import Checksum.Proofs.Command.FileSystem
import Checksum.Proofs.Command.Stages
import Checksum.Proofs.Command.Surroundings
import Checksum.Proofs.Command.Tasks
import Checksum.Proofs.Counts
import Checksum.Proofs.Exchange
import Checksum.Proofs.Extension
import Checksum.Proofs.Finishing
import Checksum.Proofs.Flags
import Checksum.Proofs.Guarded
import Checksum.Proofs.Ideal
import Checksum.Proofs.Layout
import Checksum.Proofs.Lineage
import Checksum.Proofs.Md5.Sines
import Checksum.Proofs.Md5.Standard
import Checksum.Proofs.OneShot
import Checksum.Proofs.Padding
import Checksum.Proofs.Positional
import Checksum.Proofs.Quotation
import Checksum.Proofs.Raw
import Checksum.Proofs.Refinement
import Checksum.Proofs.Refusal
import Checksum.Proofs.Registered
import Checksum.Proofs.Resumed
import Checksum.Proofs.Rounds
import Checksum.Proofs.Runs
import Checksum.Proofs.Sha256.Rolling
import Checksum.Proofs.Sha256.Standard
import Checksum.Proofs.Sha256.Variants
import Checksum.Proofs.Spelling
import Checksum.Proofs.Stream
import Checksum.Proofs.Telling
import Checksum.Proofs.Text.Utf8
import Checksum.Proofs.Text.Words
import Checksum.Proofs.Uniform
import Checksum.Registry
import Checksum.Session
import Checksum.Sha256
import Checksum.Sha256.Window
import Checksum.Text.Alphabetic
import Checksum.Text.Alphanumeric
import Checksum.Text.Blank
import Checksum.Text.ByteCount
import Checksum.Text.GraphemeExtend
import Checksum.Text.Plain
import Checksum.Text.Quoted
import Checksum.Text.Ranges
import Checksum.Text.Unprintable
