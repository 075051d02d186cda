import Provision.Connection.Change
import Provision.Connection.Fields
import Provision.Connection.File
import Provision.Connection.Identity
import Provision.Connection.Session
import Provision.Log.Settings
import Provision.Proofs.Connection.Canonical
import Provision.Proofs.Connection.Decoding
import Provision.Proofs.Connection.Document
import Provision.Proofs.Connection.Escaped
import Provision.Proofs.Connection.Layout
import Provision.Proofs.Connection.Missing
import Provision.Proofs.Connection.Number
import Provision.Proofs.Connection.Order
import Provision.Proofs.Connection.Reference
import Provision.Proofs.Connection.Secrecy
import Provision.Proofs.Connection.Space
import Provision.Proofs.Connection.Spelling
import Provision.Proofs.Connection.Userinfo
import Provision.Proofs.Resource.Appearance
import Provision.Proofs.Resource.Closing
import Provision.Proofs.Resource.Confinement
import Provision.Proofs.Resource.FilePath
import Provision.Proofs.Resource.Listing
import Provision.Resource.Bundle
