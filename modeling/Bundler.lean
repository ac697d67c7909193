import Bundler.CommandLine.Run
import Bundler.Log.Filter
import Bundler.Main
import Bundler.Script.Processor
import Bundler.Store.DirectoryTree
import Bundler.Store.Memory
import Bundler.Proofs.Graph.Opening
import Bundler.Proofs.Graph.Descent
import Bundler.Proofs.Path.Spelling
import Bundler.Proofs.Path.Normalize
import Bundler.Proofs.Path.Location
import Bundler.Proofs.Graph.Precedence
import Bundler.Proofs.Graph.Preorder
import Bundler.Proofs.Graph.Discovery
import Bundler.Proofs.Graph.Imports
import Bundler.Proofs.Graph.Emission
import Bundler.Proofs.Graph.Session
import Bundler.Proofs.Graph.Turns
import Bundler.Proofs.Bundle.AllOrNothing
import Bundler.Proofs.Graph.Reads
import Bundler.Proofs.Script.Imports
import Bundler.Proofs.Text.Utf8
import Bundler.Proofs.Path.Display
import Bundler.Proofs.Bundle.Header
import Bundler.Proofs.Bundle.Interpreter
import Bundler.Proofs.Graph.Mirror
import Bundler.Proofs.Bundle.Irrelevance
import Bundler.Proofs.Graph.Entries
import Bundler.Proofs.Graph.Absolute
import Bundler.Proofs.Graph.Relocation
import Bundler.Proofs.Path.Joining
import Bundler.Proofs.Script.Declarations
import Bundler.Proofs.Script.NormalForm
import Bundler.Proofs.Store.Enclosing
import Bundler.Proofs.Store.Files
import Bundler.Proofs.CommandLine.Stages
import Bundler.Proofs.Script.Untouched
import Bundler.Proofs.Graph.FirstDiscovery
import Bundler.Proofs.Config.Json
import Bundler.Proofs.Graph.Examination
import Bundler.Proofs.Config.Objects
import Bundler.Proofs.CommandLine.Spelling
import Bundler.Proofs.Store.ReadBack
import Bundler.Proofs.Path.Canonical
import Bundler.Proofs.Graph.Frames
