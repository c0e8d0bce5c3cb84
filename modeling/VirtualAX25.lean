import VirtualAX25.Run
import VirtualAX25.Heap
import VirtualAX25.Ledger
import VirtualAX25.Steps
import VirtualAX25.StaleMemory
import VirtualAX25.LoadCycle
import VirtualAX25.Moves
import VirtualAX25.AdapterHistory
import VirtualAX25.SlotTable
import VirtualAX25.Table
import VirtualAX25.ActiveContext
import VirtualAX25.Ownership
import VirtualAX25.Interfaces
import VirtualAX25.Handles
import VirtualAX25.NullSafety
import VirtualAX25.SendPath
import VirtualAX25.Initialisation
import VirtualAX25.Simulation
import VirtualAX25.Service
import VirtualAX25.View
import VirtualAX25.Refinement
import VirtualAX25.TableHistory
import VirtualAX25.Isolation
import VirtualAX25.Protocol
import VirtualAX25.Faults
import VirtualAX25.Interleaving
import VirtualAX25.Independence
import VirtualAX25.Future
import VirtualAX25.Commutation
import VirtualAX25.Reordering
import VirtualAX25.Replay
