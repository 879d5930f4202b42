import EasyCab.Central.Observers
import EasyCab.Central.TripSteps
import EasyCab.Central.Assignment
import EasyCab.Central.Onboard
import EasyCab.Central.Position
import EasyCab.Central.Destination
import EasyCab.Central.Queue
import EasyCab.Central.Issued
import EasyCab.Central.Survival
import EasyCab.Central.PublishedMap
import EasyCab.Central.Petitions
import EasyCab.Common.MessageCodec
import EasyCab.Common.Decoding
import EasyCab.De.EcDe
import EasyCab.Central.Strays
import EasyCab.Central.Success
import EasyCab.Library.Progress
import EasyCab.Central.Ride
import EasyCab.Network.Stages
import EasyCab.Network.Completion
import EasyCab.Customer.EcCustomer
import EasyCab.De.LatestOrder
import EasyCab.Network.Network
import EasyCab.Network.ReadBack
import EasyCab.Socket.SocketHandler
import EasyCab.Socket.Connection
import EasyCab.Socket.WholeFrames
import EasyCab.Socket.Corruption
import EasyCab.Central.AttendPetition
import EasyCab.Central.Departure
import EasyCab.Central.LastSent
import EasyCab.Central.Stranded
import EasyCab.De.Authenticate
import EasyCab.Network.Handshake
import EasyCab.Network.Conclusion
import EasyCab.De.Reaches
import EasyCab.Central.Grid
import EasyCab.Central.Standing
import EasyCab.Network.Link
import EasyCab.Network.Reconnection
import EasyCab.Network.Agreement
import EasyCab.Central.Ledger
import EasyCab.Network.Fleet
import EasyCab.Network.InStep
import EasyCab.Network.Tour
import EasyCab.Central.Aftermath
import EasyCab.Central.Replies
import EasyCab.Central.Ready
import EasyCab.De.ShortestPath
import EasyCab.MySQL.Client
import EasyCab.Central.Registration
import EasyCab.Central.Leftovers
import EasyCab.Network.Receivers
import EasyCab.Se.EcSe
import EasyCab.Central.WaitTime
import EasyCab.Network.Countdown
import EasyCab.Network.Waiting
import EasyCab.Network.Arrival
import EasyCab.Library.Readers
import EasyCab.Common.LogCodec
import EasyCab.Common.MapCodec
import EasyCab.Central.Snapshot
import EasyCab.Registry.EcRegistry
import EasyCab.Central.Namesake
import EasyCab.Network.Permission
import EasyCab.Central.Announcements
import EasyCab.Central.Failures
import EasyCab.Library.InputStream
import EasyCab.Common.Address
import EasyCab.Central.LocationsFile
import EasyCab.Library.Packing
import EasyCab.Common.SplitLines
import EasyCab.Library.Seek
import EasyCab.Ncurses.Menu
import EasyCab.Common.MessageData
import EasyCab.Socket.Errno
import EasyCab.Socket.Moves
import EasyCab.Ncurses.Table
import EasyCab.Gui.EcCentralGui
import EasyCab.Gui.OperatorInput
import EasyCab.Gui.LogLists
import EasyCab.Library.Simulation
import EasyCab.Central.Dispatcher
import EasyCab.Central.Dispatching
import EasyCab.Library.Ownership
import EasyCab.Socket.Descriptors
